import StatusLookup.FileSystem.IoError
import StatusLookup.Text.Quoted
import StatusLookup.Text.Utf8

/-!
# Stores

A store answers point reads: for a key it gives the whole record, nothing, or an error.
-/

namespace StatusLookup

/-- What a store holds at a key. -/
structure Record where
  key : String
  value : Bytes
  deriving DecidableEq, Repr

inductive StoreError where
  | unavailable (reason : String)
  | invalidKey (key : String)
  | io (e : IoError)
  deriving DecidableEq, Repr

def StoreError.message : StoreError → String
  | unavailable reason => "store unavailable: " ++ reason
  | invalidKey key => "invalid store key " ++ Text.quoted key
  | io e => "store I/O error: " ++ e.message

structure Store (m : Type → Type) where
  get : String → m (Except StoreError (Option Record))

namespace Store

def ofFunction {m : Type → Type} [Monad m]
    (f : String → Except StoreError (Option Bytes)) : Store m where
  get key := pure ((f key).map (·.map (⟨key, ·⟩)))

def failing {m : Type → Type} [Monad m] (e : StoreError) : Store m :=
  ofFunction fun _ => .error e

end Store

end StatusLookup
