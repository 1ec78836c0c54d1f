import StatusLookup.FileSystem.Path
import StatusLookup.Host
import StatusLookup.Key.Basic
import StatusLookup.Store.Basic

/-!
# Stores below a directory

A record is a file below a root directory, at the path its key spells. Only keys that are lists of
names are accepted, so no key leads out of the root.
-/

namespace StatusLookup

/-- A store of files below a root directory. -/
structure FileStore where
  root : String
  deriving DecidableEq, Repr

namespace FileStore

/-- The path of a key: the root, followed by the segments of the key. -/
def pathFor (store : FileStore) (key : String) : Except StoreError String :=
  if ∀ segment ∈ Key.segments key, Key.IsName segment then
    .ok ((Key.segments key).foldl Path.join store.root)
  else
    .error (.invalidKey key)

/-- A key that leads nowhere, to a directory, or below a file has no record. -/
def isAbsent : IoError → Bool
  | .notFound | .isADirectory | .notADirectory => true
  | _ => false

def get {m : Type → Type} [Monad m] [Host m] (store : FileStore) (key : String) :
    m (Except StoreError (Option Record)) := do
  match store.pathFor key with
  | .error e => return .error e
  | .ok path =>
    match ← Host.readFile path with
    | .ok value => return .ok (some ⟨key, value⟩)
    | .error e =>
      if isAbsent e then
        logDebug ("No record at " ++ path)
        return .ok none
      else
        return .error (.io e)

def toStore {m : Type → Type} [Monad m] [Host m] (store : FileStore) : Store m :=
  ⟨store.get⟩

end FileStore

end StatusLookup
