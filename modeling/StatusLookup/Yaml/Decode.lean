import StatusLookup.Yaml.Document
import StatusLookup.Yaml.Error
import StatusLookup.Yaml.ScalarValue

/-!
# Reading values out of nodes

A reader asks a node for one kind of value and says where the node stands. Aliases are followed
everywhere, but only so often for the size of the document, so that a short document cannot stand
for an endless value.
-/

namespace StatusLookup.Yaml

/-- A reading that counts the aliases it follows. -/
abbrev Reading := StateT Nat (Except YamlError)

namespace Reading

def fail {α : Type} (e : YamlError) : Reading α :=
  throw e

/-- The value of a whole document. What comes after a document is looked at last. -/
def run? {α : Type} (reader : Document → Reading α) (d : Document) : Except YamlError α := do
  let (a, _) ← (reader d).run 0
  if d.isComplete then return a else throw .malformed

end Reading

/-- How many aliases may be followed for each event of a document. -/
def aliasesPerEvent : Nat := 100

namespace Document

def follow (d : Document) : Node → Reading Node
  | .aliasTo anchor => do
    modify (· + 1)
    if aliasesPerEvent * d.size < (← get) then .fail .malformed
    else
      match d.anchored.lookup anchor with
      | some n => return n
      | none => .fail .malformed
  | n => return n

end Document

namespace Node

/-- The step from a mapping to the value of a key. -/
def step : Node → YamlStep
  | scalar _ text _ => .key text
  | _ => .unnamed

/-- The error of a reader that wants something else. -/
def refuse (path : YamlPath) (wanted : Wanted) : Node → YamlError
  | scalar tag text isPlain =>
    match ScalarValue.ofScalar? tag text isPlain with
    | some value => .mismatch path (.wrongType value.found wanted)
    | none => .malformed
  | sequence _ _ => .mismatch path (.wrongType .sequence wanted)
  | mapping _ _ => .mismatch path (.wrongType .mapping wanted)
  | aliasTo _ | cut => .malformed

/-- The text of a scalar, whatever it means. -/
def readText (d : Document) (path : YamlPath) (wanted : Wanted) (n : Node) : Reading String := do
  match ← d.follow n with
  | scalar _ text _ => return text
  | n => .fail (n.refuse path wanted)

/-- The entries of a mapping. Nothing written is a mapping without entries. -/
def readEntries (d : Document) (path : YamlPath) (wanted : Wanted) (n : Node) :
    Reading (List (Node × Node)) := do
  match ← d.follow n with
  | mapping _ entries => return entries
  | scalar tag text isPlain =>
    if text = "" ∧ isPlain then return []
    else .fail ((scalar tag text isPlain).refuse path wanted)
  | n => .fail (n.refuse path wanted)

/-- Passes over a value that nobody asks for. -/
def skip (n : Node) : Reading Unit :=
  if n.isWhole then return () else .fail .malformed

/-- Refuses a tag of an application's own, which a value apart from its notation cannot have. -/
def checkTag (path : YamlPath) (tag : Option Tag) : Reading Unit :=
  if tag.any Tag.isLocal then .fail (.mismatch path .tagged) else return ()

/-- The value of a node apart from its notation. Collections may lie in one another at most
`depth` deep. -/
def readContent (d : Document) (depth : Nat) (path : YamlPath) (n : Node) : Reading Content := do
  match ← d.follow n with
  | scalar tag text isPlain =>
    checkTag path tag
    match ScalarValue.ofScalar? tag text isPlain with
    | none => .fail .malformed
    | some value =>
      match value.content? with
      | some c => return c
      | none => .fail (.mismatch path (.wrongType value.found .anything))
  | sequence tag items =>
    checkTag path tag
    match depth with
    | 0 => .fail .malformed
    | depth + 1 =>
      let items ← items.zipIdx.mapM fun (item, i) => readContent d depth (.item i :: path) item
      return .list items
  | mapping tag entries =>
    checkTag path tag
    match depth with
    | 0 => .fail .malformed
    | depth + 1 =>
      let entries ← entries.mapM fun (key, value) => do
        let k ← readContent d depth path key
        let v ← readContent d depth (key.step :: path) value
        return (k, v)
      return .map entries
  | aliasTo _ | cut => .fail .malformed

end Node

end StatusLookup.Yaml
