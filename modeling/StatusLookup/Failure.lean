import StatusLookup.Key.Prefix
import StatusLookup.Lookup
import StatusLookup.Yaml.Error

/-!
# Why a command fails

Everything that can go wrong between reading a configuration and answering, with one message each.
The message about a YAML document is not the whole of it, see `YamlError.explanation`.
-/

namespace StatusLookup

inductive Failure where
  | configNotFound (directory : String)
  | missingVariable (name : String)
  | invalidConfig (e : KeyPrefixError)
  | lookup (e : LookupError)
  | invalidStatus (e : InvalidStatus)
  | io (e : IoError)
  | yaml (e : YamlError)

/-- Lookups and statuses say by themselves what is wrong with them. Of the message about a YAML
document this is the front: a line and a column follow, and before them what is wrong with the text
of a malformed one. -/
def Failure.message : Failure → String
  | configNotFound directory => "configuration file not found in " ++ directory
  | missingVariable name => "missing required environment variable: " ++ name
  | invalidConfig e => "invalid configuration: " ++ e.message
  | lookup e => e.message
  | invalidStatus e => e.message
  | io e => "I/O error: " ++ e.message
  | yaml e => "YAML parse error" ++ e.explanation.elim "" (": " ++ ·)

end StatusLookup
