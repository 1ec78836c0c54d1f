import StatusLookup.Config.FromYaml

/-!
# Configuration files

A configuration is read from a given file, or from the first of three files of a directory that
exists. A relative root of the store is relative to the directory of the file.
-/

namespace StatusLookup.Config

/-- The files that may hold the configuration of a directory, the first one first. -/
def fileNames : List String :=
  ["depstat.yml", "depstat.yaml", ".depstat/config.yml"]

/-- The configuration with a relative root put where the file at a path lies. -/
def rebase (c : Config) (path : String) : Config :=
  match Path.parent? path with
  | some directory => { c with store := c.store.rebase directory }
  | none => c

variable {m : Type → Type} [Monad m] [Host m]

def load (path : String) : m (Except Failure Config) := do
  match ← Host.readFile path with
  | .error e => return .error (.io e)
  | .ok bytes =>
    match Utf8.decode? bytes with
    | none => return .error (.io .invalidUtf8)
    | some text =>
      match ofYaml text with
      | .error e => return .error (.yaml e)
      | .ok c =>
        logDebug ("Loaded configuration from " ++ path)
        return .ok (c.rebase path)

/-- The first of some paths that leads to something. -/
def firstExisting : List String → m (Option String)
  | [] => return none
  | path :: paths => do
    if ← Host.pathExists path then return some path else firstExisting paths

/-- Reads the configuration of a directory. Only the first file that exists is tried. -/
def discover (directory : String) : m (Except Failure Config) := do
  match ← firstExisting (fileNames.map (Path.join directory)) with
  | some path => load path
  | none => return .error (.configNotFound directory)

end StatusLookup.Config
