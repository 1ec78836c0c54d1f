import StatusLookup.Proofs.FileSystem.Join

/-!
# Components of a path

Two texts may write one path: more slashes than one, single dots on the way and a slash at the end
make no difference. What is left are the components, and two paths are the same when these are.

Joining a list of names adds them to the components of a path, whatever the path is. It may be empty
or end in a slash or a single dot, which its components do not show.
-/

namespace StatusLookup.Path

/-- What a path is made of, however it is written. The first component always counts: an empty one
is the root directory and a single dot is the current one. -/
def components (path : String) : List String :=
  if path = "" then []
  else (Key.segments path).take 1 ++
    ((Key.segments path).drop 1).filter fun component => component ≠ "" ∧ component ≠ "."

private theorem filter_names {names : List String} (isName : ∀ name ∈ names, Key.IsName name) :
    (names.filter fun component => component ≠ "" ∧ component ≠ ".") = names := by
  refine List.filter_eq_self.mpr fun name member => ?_
  have named := isName name member
  exact decide_eq_true ⟨named.1, named.2.1⟩

/-- A list of names is a path of these components. -/
theorem components_of_isName {key : String}
    (isName : ∀ segment ∈ Key.segments key, Key.IsName segment) :
    components key = Key.segments key := by
  have filled : key ≠ "" := by
    rintro rfl
    exact (isName "" List.mem_cons_self).1 rfl
  rw [components, if_neg filled,
    filter_names fun name member => isName name (List.mem_of_mem_drop member),
    List.take_append_drop]

/-- Joining a list of names adds its segments to the components. -/
theorem components_join (base : String) {key : String}
    (isName : ∀ segment ∈ Key.segments key, Key.IsName segment) :
    components (join base key) = components base ++ Key.segments key := by
  have relative : isAbsolute key = false := by
    obtain ⟨first, rest, split⟩ := List.exists_cons_of_ne_nil (Key.segments_ne_nil key)
    exact Key.isRooted_eq_false split (isName first (split ▸ List.mem_cons_self)).1
  by_cases empty : base = ""
  · subst empty
    rw [join, relative, if_neg Bool.false_ne_true, if_pos (.inl rfl), String.empty_append,
      components_of_isName isName]
    rfl
  · obtain ⟨front, ends, split⟩ := segments_join base relative
    have some : front ≠ [] := by
      rintro rfl
      rcases ends with none | none
      · exact Key.segments_ne_nil base none
      · exact empty (by rw [← Key.ofSegments_segments base, none]; rfl)
    have filled : join base key ≠ "" := by
      rw [← foldl_join_segments base isName]
      exact foldl_join_ne_empty base (Key.segments_ne_nil key) isName
    have start : 1 ≤ front.length := List.length_pos_iff.mpr some
    -- An empty component at the end of the base goes when a name is joined, and did not count.
    have same : components base = front.take 1 ++
        (front.drop 1).filter fun component => component ≠ "" ∧ component ≠ "." := by
      rw [components, if_neg empty]
      rcases ends with ends | ends
      · rw [ends]
      · rw [ends, List.take_append_of_le_length start, List.drop_append_of_le_length start,
          List.filter_append]
        simp
    rw [components, if_neg filled, split, List.take_append_of_le_length start,
      List.drop_append_of_le_length start, List.filter_append, filter_names isName, same,
      List.append_assoc]

end StatusLookup.Path
