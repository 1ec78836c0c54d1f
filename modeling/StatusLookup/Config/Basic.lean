import StatusLookup.Config.EnvValue
import StatusLookup.FileSystem.Path
import StatusLookup.Lookup
import StatusLookup.Store.Files

/-!
# Configurations

A configuration names the root directory of the store and the key prefix of the records in it. The
prefix is looked up and checked only when it is needed.
-/

namespace StatusLookup

structure StoreConfig where
  root : String
  deriving DecidableEq, Repr

namespace StoreConfig

/-- The configuration with a relative root put below a directory. -/
def rebase (c : StoreConfig) (base : String) : StoreConfig :=
  if Path.isAbsolute c.root then c else ⟨Path.join base c.root⟩

def openStore (c : StoreConfig) : FileStore :=
  ⟨c.root⟩

end StoreConfig

structure Config where
  keyPrefix : EnvValue
  store : StoreConfig
  deriving DecidableEq, Repr

namespace Config

/-- The key prefix of a configuration that does not name one. -/
def standardPrefix : EnvValue :=
  .literal KeyPrefix.standard.text

variable {m : Type → Type} [Monad m] [Host m]

/-- The key prefix, looked up and checked. -/
def resolvePrefix (c : Config) : m (Except Failure KeyPrefix) := do
  match ← c.keyPrefix.resolve with
  | .error e => return .error e
  | .ok text =>
    match KeyPrefix.ofString text with
    | .ok p => return .ok p
    | .error e => return .error (.invalidConfig e)

def repository (c : Config) : m (Except Failure (Repository m)) := do
  match ← c.resolvePrefix with
  | .error e => return .error e
  | .ok p => return .ok ⟨c.store.openStore.toStore, p⟩

end Config

end StatusLookup
