import Mathlib.Data.Finset.Card
import StatusLookup.Proofs.Store.Memory

/-!
# The history of a memory store

A write is of a value or of none, and a history of writes leaves at each key what the latest write
at that very key was of. A memory store that was empty at first holds this and nothing else: nothing
of it depends on writes at other keys, or on writes at the same key that came earlier.

No key stands twice in a store, so its size counts the keys that are left with a value.
-/

namespace StatusLookup.Memory

/-- A write at a key, of a value or of none. -/
abbrev Write := String × Option Bytes

def write (store : Memory) : Write → Memory
  | (key, some value) => store.put key value
  | (key, none) => store.erase key

/-- The store that writes leave of an empty one. -/
def ofWrites (writes : List Write) : Memory :=
  writes.foldl write empty

/-- What the latest write at a key was of. -/
def held (writes : List Write) (key : String) : Option Bytes :=
  (writes.reverse.lookup key).join

def heldKeys (writes : List Write) : Finset String :=
  (writes.map Prod.fst).toFinset.filter fun key => (held writes key).isSome

variable {writes : List Write} {key : String}

@[simp] theorem held_nil (key : String) : held [] key = none := rfl

/-- One more write counts at its own key, and nowhere else. -/
theorem held_concat (writes : List Write) (latest : Write) (key : String) :
    held (writes ++ [latest]) key = if key = latest.1 then latest.2 else held writes key := by
  rw [held, List.reverse_append, List.reverse_singleton, List.singleton_append]
  split
  · rename_i same
    rw [same, List.lookup_cons_self, Option.join_some]
  · rename_i different
    rw [Entries.lookup_cons_of_ne different, held]

/-- A write at another key can be left out of a history. -/
theorem held_append_cons_of_ne {other : Write} (different : key ≠ other.1)
    (before later : List Write) :
    held (before ++ other :: later) key = held (before ++ later) key := by
  simp only [held, List.reverse_append, List.reverse_cons, List.append_assoc, List.singleton_append,
    List.lookup_append, Entries.lookup_cons_of_ne different]

theorem get?_write (store : Memory) (latest : Write) (key : String) :
    (store.write latest).get? key = if key = latest.1 then latest.2 else store.get? key := by
  obtain ⟨other, value | value⟩ := latest
  · exact get?_erase store other key
  · exact get?_put store other value key

theorem get?_ofWrites (writes : List Write) (key : String) :
    (ofWrites writes).get? key = held writes key := by
  induction writes using List.reverseRecOn with
  | nil => rfl
  | append_singleton writes latest ih =>
      rw [ofWrites, List.foldl_concat, get?_write, held_concat, ← ih, ofWrites]

/-- A value is left at a key by the latest write there. -/
theorem held_eq_some_iff {value : Bytes} :
    held writes key = some value ↔
      ∃ before later, writes = before ++ (key, some value) :: later ∧
        ∀ other ∈ later, key ≠ other.1 := by
  rw [held, Option.join_eq_some_iff, List.lookup_eq_some_iff]
  simp only [bne_iff_ne]
  constructor
  · rintro ⟨later, before, split, apart⟩
    refine ⟨before.reverse, later.reverse, ?_, ?_⟩
    · rw [← List.reverse_reverse writes, split]
      simp
    · simpa using apart
  · rintro ⟨before, later, rfl, apart⟩
    exact ⟨later.reverse, before.reverse, by simp, by simpa using apart⟩

theorem mem_heldKeys_iff : key ∈ heldKeys writes ↔ (held writes key).isSome := by
  rw [heldKeys, Finset.mem_filter, List.mem_toFinset, and_iff_right_iff_imp]
  intro left
  obtain ⟨value, found⟩ := Option.isSome_iff_exists.mp left
  obtain ⟨before, later, rfl, _⟩ := held_eq_some_iff.mp found
  simp

/-- As many keys have a value as entries are in the store. -/
theorem size_eq_card {store : Memory} {keys : Finset String}
    (holds : ∀ key, key ∈ keys ↔ (store.get? key).isSome) : store.size = keys.card := by
  have same : keys = (store.entries.map Prod.fst).toFinset := by
    ext key
    rw [holds, get?, List.lookup_isSome_iff, List.mem_toFinset, List.mem_map]
    simp only [beq_iff_eq, eq_comm (a := key)]
  rw [same, List.toFinset_card_of_nodup store.nodup, List.length_map, size]

theorem size_ofWrites (writes : List Write) : (ofWrites writes).size = (heldKeys writes).card := by
  refine size_eq_card fun key => ?_
  rw [get?_ofWrites, mem_heldKeys_iff]

theorem isEmpty_eq_true_iff {store : Memory} : store.isEmpty = true ↔ store.size = 0 := by
  rw [isEmpty, size, List.isEmpty_iff, List.length_eq_zero_iff]

end StatusLookup.Memory
