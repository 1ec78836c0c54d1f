import StatusLookup.Store.Memory
import StatusLookup.Proofs.Data.Entries

/-!
# What a memory store holds

A memory store is seen through `Memory.get?` alone. To put or to erase a key changes what is seen
under that key, and nothing else.
-/

namespace StatusLookup.Memory

@[simp] theorem get?_empty (key : String) : empty.get? key = none := rfl

theorem get?_put (store : Memory) (key : String) (value : Bytes) (other : String) :
    (store.put key value).get? other = if other = key then some value else store.get? other := by
  rw [get?, put]
  split
  · rename_i same
    rw [same, List.lookup_cons_self]
  · rename_i different
    rw [Entries.lookup_cons_of_ne different, without, Entries.lookup_filter_ne, if_neg different,
      get?]

theorem get?_erase (store : Memory) (key other : String) :
    (store.erase key).get? other = if other = key then none else store.get? other :=
  Entries.lookup_filter_ne key other store.entries

end StatusLookup.Memory
