import StatusLookup.Key.Prefix

/-!
# Keys and their segments

`Key.segments` cuts a key at its slashes and `Key.ofSegments` puts the pieces together again. A
slash between two keys appends their segments, and cutting undoes joining for every list that some
key has: one that is not empty, of segments without a slash.

Lists of non-empty segments need no such care: they are told apart by the key they spell, the empty
list included.
-/

namespace StatusLookup.Key

private theorem notMem_of_mem_splitOn {a : Char} {text piece : List Char}
    (member : piece ∈ text.splitOn a) : a ∉ piece := by
  induction text generalizing piece with
  | nil => simp_all
  | cons c text ih =>
      rw [List.splitOn_cons_eq_if_modifyHead] at member
      split at member
      · rcases List.mem_cons.mp member with rfl | later
        · exact List.not_mem_nil
        · exact ih later
      · rename_i different
        cases pieces : text.splitOn a with
        | nil => simp [pieces] at member
        | cons first rest =>
            rw [pieces, List.modifyHead_cons] at member
            rcases List.mem_cons.mp member with rfl | later
            · have clear : a ∉ first := ih (pieces ▸ List.mem_cons_self)
              rintro (_ | ⟨_, later⟩)
              · simp at different
              · exact clear later
            · exact ih (pieces ▸ List.mem_cons_of_mem _ later)

theorem slash_notMem_of_mem_segments {key segment : String} (member : segment ∈ segments key) :
    '/' ∉ segment.toList := by
  obtain ⟨piece, piece_mem, rfl⟩ := List.mem_map.mp member
  simpa using notMem_of_mem_splitOn piece_mem

theorem segments_ne_nil (key : String) : segments key ≠ [] := by
  simp [segments]

@[simp] theorem segments_empty : segments "" = [""] := rfl

@[simp] theorem ofSegments_nil : ofSegments [] = "" := rfl

theorem segments_append_slash (front back : String) :
    segments (front ++ "/" ++ back) = segments front ++ segments back := by
  have slash : "/".toList = ['/'] := rfl
  simp only [segments, String.toList_append, slash, List.append_assoc, List.singleton_append,
    List.splitOn_append_cons_self, List.map_append]

@[simp] theorem ofSegments_segments (key : String) : ofSegments (segments key) = key := by
  apply String.toList_inj.mp
  have slash : "/".toList = ['/'] := rfl
  simp only [ofSegments, segments, String.toList_intercalate, List.map_map, slash]
  have same : String.toList ∘ String.ofList = id := by
    funext text
    simp
  rw [same, List.map_id, List.intercalate_splitOn]

/-- A text without a slash is its only segment. -/
theorem segments_of_slash_notMem {segment : String} (clear : '/' ∉ segment.toList) :
    segments segment = [segment] := by
  simp [segments, List.splitOn_eq_singleton clear]

theorem segments_ofSegments_flatMap {parts : List String} (ne_nil : parts ≠ []) :
    segments (ofSegments parts) = parts.flatMap segments := by
  induction parts with
  | nil => contradiction
  | cons part parts ih =>
      by_cases last : parts = []
      · simp [last, ofSegments]
      · rw [ofSegments, String.intercalate_cons_of_ne_nil last, segments_append_slash,
          ← ofSegments, ih last, List.flatMap_cons]

theorem segments_ofSegments {parts : List String} (ne_nil : parts ≠ [])
    (clear : ∀ part ∈ parts, '/' ∉ part.toList) : segments (ofSegments parts) = parts := by
  have single : parts.map segments = parts.map fun part => [part] :=
    List.map_congr_left fun part member => segments_of_slash_notMem (clear part member)
  rw [segments_ofSegments_flatMap ne_nil, List.flatMap_def, single, ← List.flatMap_def,
    List.flatMap_singleton']

/-- Non-empty segments spell the empty key only if there are none. -/
theorem ofSegments_eq_empty_iff {parts : List String} (filled : ∀ part ∈ parts, part ≠ "") :
    ofSegments parts = "" ↔ parts = [] := by
  constructor
  · intro empty
    cases parts with
    | nil => rfl
    | cons part parts =>
        refine absurd ?_ (filled part List.mem_cons_self)
        by_cases last : parts = []
        · simpa [last, ofSegments] using empty
        · rw [ofSegments, String.intercalate_cons_of_ne_nil last] at empty
          simp_all
  · rintro rfl
    rfl

/-- Lists of non-empty segments are told apart by the key they spell. -/
theorem ofSegments_injective {parts others : List String}
    (filled : ∀ part ∈ parts, part ≠ "" ∧ '/' ∉ part.toList)
    (filled' : ∀ part ∈ others, part ≠ "" ∧ '/' ∉ part.toList)
    (same : ofSegments parts = ofSegments others) : parts = others := by
  have empty := ofSegments_eq_empty_iff fun part member => (filled part member).1
  have empty' := ofSegments_eq_empty_iff fun part member => (filled' part member).1
  by_cases none : parts = []
  · rw [none, eq_comm, ← empty', ← same, empty, none]
  · have some : others ≠ [] := fun nil => none (empty.mp (same.trans (empty'.mpr nil)))
    calc parts = segments (ofSegments parts) :=
          (segments_ofSegments none fun part member => (filled part member).2).symm
      _ = segments (ofSegments others) := by rw [same]
      _ = others := segments_ofSegments some fun part member => (filled' part member).2

/-- A key lies below another one when the segments of that one come first, and more follow. -/
theorem exists_eq_append_slash_iff {key front : String} :
    (∃ back, key = front ++ "/" ++ back) ↔
      ∃ rest, rest ≠ [] ∧ segments key = segments front ++ rest := by
  constructor
  · rintro ⟨back, rfl⟩
    exact ⟨segments back, segments_ne_nil back, segments_append_slash front back⟩
  · rintro ⟨rest, ne_nil, split⟩
    refine ⟨ofSegments rest, ?_⟩
    calc key = ofSegments (segments front ++ rest) := by rw [← split, ofSegments_segments]
      _ = ofSegments (segments front) ++ "/" ++ ofSegments rest :=
          String.intercalate_append_of_ne_nil (segments_ne_nil front) ne_nil
      _ = front ++ "/" ++ ofSegments rest := by rw [ofSegments_segments]

/-- A key begins with a segment when it is that segment or goes on behind it with a slash. -/
theorem head?_segments_eq_some_iff {key first : String} (clear : '/' ∉ first.toList) :
    (segments key).head? = some first ↔ key = first ∨ ∃ back, key = first ++ "/" ++ back := by
  rw [exists_eq_append_slash_iff, segments_of_slash_notMem clear]
  constructor
  · intro head
    obtain ⟨rest, split⟩ := List.head?_eq_some_iff.mp head
    by_cases single : rest = []
    · left
      rw [← ofSegments_segments key, split, single]
      rfl
    · exact .inr ⟨rest, single, split⟩
  · rintro (rfl | ⟨rest, -, split⟩)
    · rw [segments_of_slash_notMem clear, List.head?_cons]
    · rw [split, List.singleton_append, List.head?_cons]

end StatusLookup.Key
