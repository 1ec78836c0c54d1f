import StatusLookup.FileSystem.Path
import StatusLookup.Proofs.Key.Clean

/-!
# Names joined to a path

A name that is joined to a path becomes its last component. The path in front stays as it was
written, except that an empty component at its end is replaced: that is what an empty path consists
of, and what a slash at the end of a path leaves.
-/

namespace StatusLookup.Path

variable {base name : String} {names : List String}

theorem isAbsolute_of_isName (isName : Key.IsName name) : isAbsolute name = false :=
  Key.isRooted_eq_false (Key.segments_of_slash_notMem isName.2.2.2) isName.1

/-- Joining a relative path appends it, after a slash where one is wanted. -/
theorem exists_join_eq_append (base : String) :
    ∃ slash, ∀ path, isAbsolute path = false → join base path = base ++ slash ++ path := by
  by_cases closed : base = "" ∨ base.toList.getLast? = some '/'
  · refine ⟨"", fun path relative => ?_⟩
    rw [join, relative, if_neg Bool.false_ne_true, if_pos closed, String.append_empty]
  · refine ⟨"/", fun path relative => ?_⟩
    rw [join, relative, if_neg Bool.false_ne_true, if_neg closed]

/-- Joining a name appends it, after a slash where one is wanted. -/
theorem join_eq_append (base : String) (isName : Key.IsName name) :
    ∃ slash, join base name = base ++ slash ++ name := by
  obtain ⟨slash, joined⟩ := exists_join_eq_append base
  exact ⟨slash, joined name (isAbsolute_of_isName isName)⟩

theorem join_ne_empty (base : String) (isName : Key.IsName name) : join base name ≠ "" := by
  obtain ⟨slash, joined⟩ := join_eq_append base isName
  rw [joined]
  intro empty
  have filled := isName.1
  simp_all

/-- Names are joined at the end of a path. -/
theorem exists_foldl_join_eq_append (base : String) (isName : ∀ name ∈ names, Key.IsName name) :
    ∃ back, names.foldl join base = base ++ back := by
  induction names generalizing base with
  | nil => exact ⟨"", by rw [String.append_empty]; rfl⟩
  | cons name names ih =>
      obtain ⟨first, others⟩ := List.forall_mem_cons.mp isName
      obtain ⟨slash, joined⟩ := join_eq_append base first
      obtain ⟨back, rest⟩ := ih (join base name) others
      refine ⟨slash ++ name ++ back, ?_⟩
      rw [List.foldl_cons, rest, joined, String.append_assoc, String.append_assoc,
        String.append_assoc]

theorem foldl_join_ne_empty (base : String) (ne_nil : names ≠ [])
    (isName : ∀ name ∈ names, Key.IsName name) : names.foldl join base ≠ "" := by
  obtain ⟨name, rest, rfl⟩ := List.exists_cons_of_ne_nil ne_nil
  obtain ⟨first, others⟩ := List.forall_mem_cons.mp isName
  obtain ⟨back, joined⟩ := exists_foldl_join_eq_append (join base name) others
  have filled := join_ne_empty base first
  rw [List.foldl_cons, joined]
  simp_all

/-- A relative path can be joined to a name first. -/
theorem join_join (base : String) (isName : Key.IsName name) {path : String}
    (relative : isAbsolute path = false) :
    join (join base name) path = join base (name ++ "/" ++ path) := by
  obtain ⟨slash, joined⟩ := exists_join_eq_append base
  have named := joined name (isAbsolute_of_isName isName)
  have relative' : isAbsolute (name ++ "/" ++ path) = false := by
    have split : Key.segments (name ++ "/" ++ path) = name :: Key.segments path := by
      rw [Key.segments_append_slash, Key.segments_of_slash_notMem isName.2.2.2,
        List.singleton_append]
    exact Key.isRooted_eq_false split isName.1
  have unclosed : (join base name).toList.getLast? ≠ some '/' := by
    intro last
    have filled : name.toList ≠ [] := mt String.toList_eq_nil_iff.mp isName.1
    rw [named, String.toList_append, List.getLast?_append, List.getLast?_eq_some_getLast filled,
      Option.some_or] at last
    exact isName.2.2.2 (Option.some.inj last ▸ List.getLast_mem filled)
  have open' : ¬ (join base name = "" ∨ (join base name).toList.getLast? = some '/') :=
    not_or.mpr ⟨join_ne_empty base isName, unclosed⟩
  rw [join, relative, if_neg Bool.false_ne_true, if_neg open', named, joined _ relative']
  simp only [String.append_assoc]

/-- To join names one by one is to join the key that they spell. -/
theorem foldl_join_eq_join (base : String) (ne_nil : names ≠ [])
    (isName : ∀ name ∈ names, Key.IsName name) :
    names.foldl join base = join base (Key.ofSegments names) := by
  induction names generalizing base with
  | nil => contradiction
  | cons name names ih =>
      by_cases last : names = []
      · subst last
        rw [List.foldl_cons, List.foldl_nil, Key.ofSegments, String.intercalate_singleton]
      · obtain ⟨first, others⟩ := List.forall_mem_cons.mp isName
        have relative : isAbsolute (Key.ofSegments names) = false := by
          obtain ⟨next, rest, rfl⟩ := List.exists_cons_of_ne_nil last
          apply Key.isRooted_eq_false
          · apply Key.segments_ofSegments last
            intro other member
            exact (others other member).2.2.2
          · exact (others next List.mem_cons_self).1
        rw [List.foldl_cons, ih _ last others, join_join base first relative, Key.ofSegments,
          Key.ofSegments, String.intercalate_cons_of_ne_nil last]

/-- The path of a key that is a list of names. -/
theorem foldl_join_segments (base : String) {key : String}
    (isName : ∀ segment ∈ Key.segments key, Key.IsName segment) :
    (Key.segments key).foldl join base = join base key := by
  rw [foldl_join_eq_join base (Key.segments_ne_nil key) isName, Key.ofSegments_segments]

/-- The components of a joined path. -/
theorem segments_join (base : String) {path : String} (relative : isAbsolute path = false) :
    ∃ front, (Key.segments base = front ∨ Key.segments base = front ++ [""]) ∧
      Key.segments (join base path) = front ++ Key.segments path := by
  rw [join, relative, if_neg Bool.false_ne_true]
  by_cases empty : base = ""
  · subst empty
    refine ⟨[], .inr rfl, ?_⟩
    rw [if_pos (.inl rfl), String.empty_append, List.nil_append]
  · by_cases trailing : base.toList.getLast? = some '/'
    · obtain ⟨front, split⟩ := List.getLast?_eq_some_iff.mp trailing
      have closed : base = String.ofList front ++ "/" :=
        String.toList_inj.mp (by rw [split]; simp)
      have base_eq : base = String.ofList front ++ "/" ++ "" := by
        rw [String.append_empty, ← closed]
      refine ⟨Key.segments (String.ofList front), .inr ?_, ?_⟩
      · rw [base_eq, Key.segments_append_slash, Key.segments_empty]
      · rw [if_pos (.inr trailing), closed, Key.segments_append_slash]
    · refine ⟨Key.segments base, .inl rfl, ?_⟩
      rw [if_neg (by simp [empty, trailing]), Key.segments_append_slash]

/-- A joined path is absolute when its base is. -/
theorem isRooted_join (base : String) {path : String} (relative : isAbsolute path = false) :
    Key.isRooted (join base path) = Key.isRooted base := by
  by_cases empty : base = ""
  · subst empty
    rw [join, relative, if_neg Bool.false_ne_true, if_pos (.inl rfl), String.empty_append]
    exact relative
  · obtain ⟨slash, joined⟩ := exists_join_eq_append base
    rw [joined path relative, String.append_assoc, Key.isRooted_append empty]

/-- A relative path is joined by putting it after a text that is empty or ends in a slash. -/
theorem exists_closed_join_eq_append (base : String) :
    ∃ front : String, (front = "" ∨ front.toList.getLast? = some '/') ∧
      ∀ path, isAbsolute path = false → join base path = front ++ path := by
  obtain ⟨slash, joined⟩ := exists_join_eq_append base
  refine ⟨base ++ slash, ?_, joined⟩
  have self : join base "" = base ++ slash := by rw [joined "" rfl, String.append_empty]
  rw [← self, join, if_neg (by decide)]
  split
  · rename_i closed
    rwa [String.append_empty]
  · exact .inr (by simp)

/-- What comes after such a text can be joined on its own. -/
theorem join_append {front : String} (closed : front = "" ∨ front.toList.getLast? = some '/')
    (base : String) {path : String} (relative : isAbsolute path = false) :
    join (front ++ base) path = front ++ join base path := by
  by_cases empty : base = ""
  · subst empty
    rw [String.append_empty, join, join, relative, if_neg Bool.false_ne_true, if_pos closed,
      if_neg Bool.false_ne_true, if_pos (.inl rfl), String.empty_append]
  · have filled : base.toList ≠ [] := mt String.toList_eq_nil_iff.mp empty
    have last : (front ++ base).toList.getLast? = base.toList.getLast? := by
      rw [String.toList_append, List.getLast?_append, List.getLast?_eq_some_getLast filled,
        Option.some_or]
    have filled' : front ++ base ≠ "" := by simp_all
    rw [join, join, relative, last]
    simp only [Bool.false_eq_true, if_false, filled', empty, false_or]
    split
    · rw [String.append_assoc]
    · simp only [String.append_assoc]

theorem foldl_join_append {front : String}
    (closed : front = "" ∨ front.toList.getLast? = some '/') (base : String)
    (isName : ∀ name ∈ names, Key.IsName name) :
    names.foldl join (front ++ base) = front ++ names.foldl join base := by
  induction names generalizing base with
  | nil => rfl
  | cons name names ih =>
      obtain ⟨first, others⟩ := List.forall_mem_cons.mp isName
      rw [List.foldl_cons, List.foldl_cons, join_append closed base (isAbsolute_of_isName first),
        ih _ others]

end StatusLookup.Path
