import StatusLookup.Yaml.Tag

/-!
# Tokens of a YAML text

Indicators, scalars and the beginnings and ends of collections. What opens and closes a block
collection is not written down but follows from the indentation.
-/

namespace StatusLookup.Yaml

inductive Token where
  | directive (d : Directive)
  | documentStart
  | documentEnd
  | streamEnd
  | blockSequenceStart
  | blockMappingStart
  | blockEnd
  | flowSequenceStart
  | flowSequenceEnd
  | flowMappingStart
  | flowMappingEnd
  | blockEntry
  | flowEntry
  | key
  | value
  | aliasTo (name : String)
  | anchor (name : String)
  | tag (name : TagName)
  | scalar (text : String) (isPlain : Bool)
  deriving DecidableEq

end StatusLookup.Yaml
