import StatusLookup.Store.Basic

/-!
# Stores in memory

A memory store is a list of entries in which no key stands twice. Any text is a key, clean or not.
-/

namespace StatusLookup

/-- Values by key, each key at most once. -/
structure Memory where
  entries : List (String × Bytes)
  nodup : (entries.map Prod.fst).Nodup

namespace Memory

def empty : Memory := ⟨[], List.nodup_nil⟩

instance : Inhabited Memory := ⟨empty⟩

def get? (store : Memory) (key : String) : Option Bytes :=
  store.entries.lookup key

def without (entries : List (String × Bytes)) (key : String) : List (String × Bytes) :=
  entries.filter fun entry => entry.1 ≠ key

theorem nodup_without {entries : List (String × Bytes)} (key : String)
    (nodup : (entries.map Prod.fst).Nodup) : ((without entries key).map Prod.fst).Nodup :=
  (List.filter_sublist.map Prod.fst).nodup nodup

def put (store : Memory) (key : String) (value : Bytes) : Memory where
  entries := (key, value) :: without store.entries key
  nodup := by
    refine List.nodup_cons.2 ⟨?_, nodup_without key store.nodup⟩
    simp [without]

def erase (store : Memory) (key : String) : Memory :=
  ⟨without store.entries key, nodup_without key store.nodup⟩

def size (store : Memory) : Nat :=
  store.entries.length

def isEmpty (store : Memory) : Bool :=
  store.entries.isEmpty

def toStore {m : Type → Type} [Monad m] (store : Memory) : Store m :=
  Store.ofFunction fun key => .ok (store.get? key)

end Memory

end StatusLookup
