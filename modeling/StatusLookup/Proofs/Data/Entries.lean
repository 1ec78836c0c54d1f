import Mathlib.Data.List.Basic

/-!
# Entries by key

Directories and stores in memory are lists of entries that are looked up by key. An entry is seen
under its own key alone, and to take out all entries of a key hides that key and no other.
-/

namespace StatusLookup.Entries

variable {α : Type} {key other : String} {entries : List (String × α)} {value : α}

theorem lookup_cons_of_ne {entry : String × α} (different : other ≠ entry.1) :
    (entry :: entries).lookup other = entries.lookup other := by
  rw [List.lookup_cons, beq_eq_false_iff_ne.mpr different]

theorem mem_of_lookup_eq_some (found : entries.lookup key = some value) :
    (key, value) ∈ entries := by
  obtain ⟨front, back, split, _⟩ := List.lookup_eq_some_iff.mp found
  rw [split]
  exact List.mem_append_right front List.mem_cons_self

/-- Without the entries of a key, that key is missing and every other one is as before. -/
theorem lookup_filter_ne (key other : String) (entries : List (String × α)) :
    (entries.filter fun entry => entry.1 ≠ key).lookup other =
      if other = key then none else entries.lookup other := by
  induction entries with
  | nil => exact (ite_self none).symm
  | cons entry entries ih =>
      by_cases removed : entry.1 = key
      · rw [List.filter_cons_of_neg (by simpa using removed), ih]
        split
        · rfl
        · rename_i different
          rw [lookup_cons_of_ne (removed.symm ▸ different)]
      · rw [List.filter_cons_of_pos (by simpa using removed)]
        by_cases same : other = entry.1
        · subst same
          rw [if_neg removed, List.lookup_cons, List.lookup_cons, beq_self_eq_true]
        · rw [lookup_cons_of_ne same, lookup_cons_of_ne same, ih]

end StatusLookup.Entries
