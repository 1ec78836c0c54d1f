import StatusLookup.Config.Basic
import StatusLookup.Yaml.Decode

/-!
# Configurations in YAML

A configuration is a mapping with the entry `store`, itself a mapping with the entry `root`, and
perhaps the entry `key_prefix`. The entries may come in any order and among others, but none of
the three may come twice. They are read in order, and the first thing that is wrong is the error.
-/

namespace StatusLookup

open Yaml

namespace StoreConfig

/-- Reads one more entry, given the root if it has been read. -/
def readEntry (d : Document) (path : YamlPath) (root : Option String) (entry : Node × Node) :
    Reading (Option String) := do
  let (key, value) := entry
  match ← key.readText d path .fieldName with
  | "root" =>
    if root.isSome then .fail (.mismatch path (.duplicateField "root"))
    else return some (← value.readText d (key.step :: path) .path)
  | _ =>
    value.skip
    return root

/-- The mapping below `store`. -/
def ofNode (d : Document) (path : YamlPath) (n : Node) : Reading StoreConfig := do
  let entries ← n.readEntries d path .storeConfig
  match ← entries.foldlM (readEntry d path) none with
  | some root => return ⟨root⟩
  | none => .fail (.mismatch path (.missingField "root"))

end StoreConfig

namespace EnvValue

/-- The deepest nesting of collections in a value. -/
def maxDepth : Nat := 127

/-- A text, or a mapping that names a variable. When it is neither, that is an error of the whole
document. -/
def ofNode (d : Document) (path : YamlPath) (n : Node) : Reading EnvValue := do
  match ofContent? (← n.readContent d maxDepth path) with
  | some value => return value
  | none => .fail (.mismatch [] .noEnvValue)

end EnvValue

namespace Config

/-- The entries of a configuration that have been read. -/
structure Entries where
  keyPrefix : Option EnvValue
  store : Option StoreConfig

def readEntry (d : Document) (found : Entries) (entry : Node × Node) : Reading Entries := do
  let (key, value) := entry
  match ← key.readText d [] .fieldName with
  | "key_prefix" =>
    if found.keyPrefix.isSome then .fail (.mismatch [] (.duplicateField "key_prefix"))
    else return { found with keyPrefix := some (← EnvValue.ofNode d [key.step] value) }
  | "store" =>
    if found.store.isSome then .fail (.mismatch [] (.duplicateField "store"))
    else return { found with store := some (← StoreConfig.ofNode d [key.step] value) }
  | _ =>
    value.skip
    return found

def ofDocument (d : Document) : Reading Config := do
  let entries ← d.root.readEntries d [] .config
  let found ← entries.foldlM (readEntry d) ⟨none, none⟩
  match found.store with
  | some store => return ⟨found.keyPrefix.getD standardPrefix, store⟩
  | none => .fail (.mismatch [] (.missingField "store"))

def ofYaml (text : String) : Except YamlError Config :=
  Reading.run? ofDocument (Document.ofText text)

end Config

end StatusLookup
