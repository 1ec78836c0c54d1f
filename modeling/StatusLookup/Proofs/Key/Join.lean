import StatusLookup.Proofs.Key.NormalForm
import StatusLookup.Proofs.Key.Validation

/-!
# Joining in stages

Parts are joined at slashes and cleaned once, at the end. Some of them may as well be joined and
cleaned before: cleaning keeps the way a key leads, and that is all that is asked of a key with
others around it. Only the start of a key must be kept apart. A slash there makes the whole key
rooted when nothing is in front of it, and stands for nothing otherwise, so parts at the end may be
joined before the rest if they do not begin with a slash.

Joining leaves out empty parts and gives the empty text for nothing. It is an operation on two texts
that has the empty text as its unit, followed by a cleaning that keeps the empty text; the laws are
proved of these two.
-/

namespace StatusLookup

namespace Key

variable {key front back : String}

/-! ## Cleaning a part of a key -/

/-- Texts of one kind that lead the same way have the same clean form. -/
theorem clean_eq_of_ofKey_eq {a b : String} (kind : isRooted a = isRooted b)
    (route : Route.ofKey a = Route.ofKey b) : clean a = clean b := by
  cases rooted : isRooted b with
  | true => rw [clean_of_rooted (kind.trans rooted), clean_of_rooted rooted, route]
  | false => rw [clean_of_relative (kind.trans rooted), clean_of_relative rooted, route]

theorem ofKey_clean_of_relative (relative : isRooted key = false) :
    Route.ofKey (clean key) = Route.ofKey key := by
  apply (clean_eq_clean_iff_of_relative ((isRooted_clean key).trans relative) relative).mp
  exact (isClean_clean key).clean_eq

/-- At the root a double dot is dropped, so the clean form of a rooted key need not climb as the key
does. It enters the same names. -/
theorem names_ofKey_clean_of_rooted (rooted : isRooted key = true) :
    (Route.ofKey (clean key)).names = (Route.ofKey key).names := by
  apply (clean_eq_clean_iff_of_rooted ((isRooted_clean key).trans rooted) rooted).mp
  exact (isClean_clean key).clean_eq

theorem clean_ne_empty (key : String) : clean key ≠ "" := by
  intro empty
  have left := isClean_clean key
  rw [empty] at left
  exact absurd left.clean_eq (by decide)

/-- What is in front of a slash may be cleaned first. -/
theorem clean_clean_append_slash (filled : front ≠ "") (back : String) :
    clean (clean front ++ "/" ++ back) = clean (front ++ "/" ++ back) := by
  have kind := isRooted_append_slash filled back
  have kind' : isRooted (clean front ++ "/" ++ back) = isRooted front := by
    rw [isRooted_append_slash (clean_ne_empty front), isRooted_clean]
  cases rooted : isRooted front with
  | true =>
      rw [rooted] at kind kind'
      rw [clean_eq_clean_iff_of_rooted kind' kind, Route.ofKey_append_slash,
        Route.ofKey_append_slash, Route.comp_names, Route.comp_names,
        names_ofKey_clean_of_rooted rooted]
  | false =>
      rw [rooted] at kind kind'
      rw [clean_eq_clean_iff_of_relative kind' kind, Route.ofKey_append_slash,
        Route.ofKey_append_slash, ofKey_clean_of_relative rooted]

/-- A relative key behind a slash may be cleaned first. -/
theorem clean_append_slash_clean (filled : front ≠ "") (relative : isRooted back = false) :
    clean (front ++ "/" ++ clean back) = clean (front ++ "/" ++ back) := by
  apply clean_eq_of_ofKey_eq
  · rw [isRooted_append_slash filled, isRooted_append_slash filled]
  · rw [Route.ofKey_append_slash, Route.ofKey_append_slash, ofKey_clean_of_relative relative]

/-! ## Joining two texts -/

/-- Cleaning that leaves the empty text as it is. -/
def tidy (key : String) : String :=
  if key = "" then "" else clean key

/-- Two texts with a slash between them, unless one of them is empty. -/
def joinTwo (front back : String) : String :=
  if front = "" then back
  else if back = "" then front
  else front ++ "/" ++ back

@[simp] theorem tidy_empty : tidy "" = "" := rfl

theorem tidy_of_ne_empty (filled : key ≠ "") : tidy key = clean key :=
  if_neg filled

theorem tidy_ne_empty (filled : key ≠ "") : tidy key ≠ "" := by
  rw [tidy_of_ne_empty filled]
  exact clean_ne_empty key

@[simp] theorem tidy_tidy (key : String) : tidy (tidy key) = tidy key := by
  by_cases empty : key = ""
  · rw [empty, tidy_empty, tidy_empty]
  · rw [tidy_of_ne_empty (tidy_ne_empty empty), tidy_of_ne_empty empty]
    exact (isClean_clean key).clean_eq

@[simp] theorem joinTwo_empty_left (back : String) : joinTwo "" back = back := rfl

@[simp] theorem joinTwo_empty_right (front : String) : joinTwo front "" = front := by
  rw [joinTwo]
  split
  · rename_i empty
    exact empty.symm
  · rfl

theorem joinTwo_of_ne_empty (filled : front ≠ "") (filled' : back ≠ "") :
    joinTwo front back = front ++ "/" ++ back := by
  rw [joinTwo, if_neg filled, if_neg filled']

theorem joinTwo_ne_empty (filled : front ≠ "") (back : String) : joinTwo front back ≠ "" := by
  rw [joinTwo, if_neg filled]
  split
  · exact filled
  · intro empty
    simp_all

/-- The first of two texts may be tidied before they are joined. -/
theorem tidy_joinTwo_tidy_left (front back : String) :
    tidy (joinTwo (tidy front) back) = tidy (joinTwo front back) := by
  by_cases empty : front = ""
  · rw [empty, tidy_empty]
  · by_cases empty' : back = ""
    · rw [empty', joinTwo_empty_right, joinTwo_empty_right, tidy_tidy]
    · rw [tidy_of_ne_empty (joinTwo_ne_empty (tidy_ne_empty empty) back),
        tidy_of_ne_empty (joinTwo_ne_empty empty back),
        joinTwo_of_ne_empty (tidy_ne_empty empty) empty', joinTwo_of_ne_empty empty empty',
        tidy_of_ne_empty empty, clean_clean_append_slash empty]

/-- And so may the second one if it is relative. -/
theorem tidy_joinTwo_tidy_right (front : String) (relative : isRooted back = false) :
    tidy (joinTwo front (tidy back)) = tidy (joinTwo front back) := by
  by_cases empty : front = ""
  · rw [empty, joinTwo_empty_left, joinTwo_empty_left, tidy_tidy]
  · by_cases empty' : back = ""
    · rw [empty', tidy_empty]
    · rw [tidy_of_ne_empty (joinTwo_ne_empty empty (tidy back)),
        tidy_of_ne_empty (joinTwo_ne_empty empty back),
        joinTwo_of_ne_empty empty (tidy_ne_empty empty'), joinTwo_of_ne_empty empty empty',
        tidy_of_ne_empty empty', clean_append_slash_clean empty relative]

/-! ## Joining lists -/

/-- The text that parts are joined to before it is cleaned. -/
def joined (parts : List String) : String :=
  ofSegments (parts.filter fun part => part ≠ "")

theorem join_eq_tidy (parts : List String) : join parts = tidy (joined parts) := rfl

private theorem filled_of_mem_filter {parts : List String} {part : String}
    (member : part ∈ parts.filter fun part => part ≠ "") : part ≠ "" := by
  simpa using (List.mem_filter.mp member).2

theorem joined_eq_empty_iff {parts : List String} :
    joined parts = "" ↔ (parts.filter fun part => part ≠ "") = [] :=
  ofSegments_eq_empty_iff fun _ => filled_of_mem_filter

theorem joined_append (xs ys : List String) :
    joined (xs ++ ys) = joinTwo (joined xs) (joined ys) := by
  have cut : ((xs ++ ys).filter fun part => part ≠ "") =
      (xs.filter fun part => part ≠ "") ++ ys.filter fun part => part ≠ "" :=
    List.filter_append xs ys
  by_cases none : joined xs = ""
  · rw [none, joinTwo_empty_left, joined, cut, joined_eq_empty_iff.mp none, List.nil_append, joined]
  · by_cases none' : joined ys = ""
    · rw [none', joinTwo_empty_right, joined, cut, joined_eq_empty_iff.mp none', List.append_nil,
        joined]
    · rw [joinTwo_of_ne_empty none none', joined, cut]
      exact String.intercalate_append_of_ne_nil (mt joined_eq_empty_iff.mpr none)
        (mt joined_eq_empty_iff.mpr none')

@[simp] theorem joined_singleton (part : String) : joined [part] = part := by
  by_cases empty : part = ""
  · rw [empty]
    rfl
  · rw [joined, List.filter_cons_of_pos (by simpa using empty), List.filter_nil]
    exact String.intercalate_singleton

/-- Joined parts are relative when the first part that is not empty is. -/
theorem isRooted_joined {parts : List String}
    (relative : ∀ first, parts.find? (fun part => part ≠ "") = some first →
      isRooted first = false) : isRooted (joined parts) = false := by
  rw [← List.head?_filter] at relative
  cases left : parts.filter fun part => part ≠ "" with
  | nil =>
      rw [joined_eq_empty_iff.mpr left]
      rfl
  | cons first rest =>
      have filled : first ≠ "" := filled_of_mem_filter (left ▸ List.mem_cons_self)
      have start : isRooted first = false := relative first (by rw [left, List.head?_cons])
      rw [joined, left]
      by_cases last : rest = []
      · rw [last, ofSegments, String.intercalate_singleton, start]
      · rw [ofSegments, String.intercalate_cons_of_ne_nil last, isRooted_append_slash filled, start]

/-- Parts in front may be joined first. -/
theorem join_append (xs ys : List String) : join (xs ++ ys) = join ([join xs] ++ ys) := by
  calc join (xs ++ ys)
      = tidy (joinTwo (joined xs) (joined ys)) := by rw [join_eq_tidy, joined_append]
    _ = tidy (joinTwo (join xs) (joined ys)) := (tidy_joinTwo_tidy_left _ _).symm
    _ = join ([join xs] ++ ys) := by
        rw [join_eq_tidy ([join xs] ++ ys), joined_append, joined_singleton]

/-- Parts at the end may be joined first if they do not begin with a slash. -/
theorem join_append_of_relative (xs : List String) {ys : List String}
    (relative : isRooted (joined ys) = false) : join (xs ++ ys) = join (xs ++ [join ys]) := by
  calc join (xs ++ ys)
      = tidy (joinTwo (joined xs) (joined ys)) := by rw [join_eq_tidy, joined_append]
    _ = tidy (joinTwo (joined xs) (join ys)) := (tidy_joinTwo_tidy_right _ relative).symm
    _ = join (xs ++ [join ys]) := by
        rw [join_eq_tidy (xs ++ [join ys]), joined_append, joined_singleton]

end Key

namespace KeyPrefix

/-- The text of a prefix is joined from the text it was accepted as. -/
theorem text_eq_join {value : String} {p : KeyPrefix} (accepted : ofString value = .ok p) :
    p.text = Key.join [value] := by
  have filled : value ≠ "" := by
    rintro rfl
    contradiction
  rw [text_eq_clean accepted, Key.join_eq_tidy, Key.joined_singleton, Key.tidy_of_ne_empty filled]

/-- Joining may be done in stages: parts in front may be joined first, and so may parts at the end
of which the first that is not empty does not begin with a slash. So a prefix may be kept clean; a
status key is the same as if it were joined to the prefix as it was given. -/
theorem join_in_stages_and_statusKey :
    (∀ xs ys, Key.join (xs ++ ys) = Key.join ([Key.join xs] ++ ys)) ∧
      (∀ xs ys, (∀ first, ys.find? (fun part => part ≠ "") = some first →
          Key.isRooted first = false) →
        Key.join (xs ++ ys) = Key.join (xs ++ [Key.join ys])) ∧
      ∀ value p id, ofString value = .ok p → p.statusKey id = Key.join [value, id, "status"] := by
  refine ⟨Key.join_append, ?_, ?_⟩
  · intro xs ys relative
    exact Key.join_append_of_relative xs (Key.isRooted_joined relative)
  · intro value p id accepted
    rw [statusKey, text_eq_join accepted]
    exact (Key.join_append [value] [id, "status"]).symm

/-- A double dot takes away a name of the parts in front, joined first or not. Behind a slash it
would not, so a part that begins with one must not be joined first. -/
theorem join_in_stages_apart_from_slash :
    let given : KeyPrefix := ⟨["kv", "x"], by decide, by decide⟩
    (∀ first, ["", "../b"].find? (fun part => part ≠ "") = some first →
        Key.isRooted first = false) ∧
      Key.join (["a", "b"] ++ ["", "../b"]) = Key.join (["a", "b"] ++ [Key.join ["", "../b"]]) ∧
      Key.join (["a"] ++ ["/../b"]) ≠ Key.join (["a"] ++ [Key.join ["/../b"]]) ∧
      ofString "kv//./x/" = .ok given ∧
      given.statusKey "../web" = Key.join ["kv//./x/", "../web", "status"] := by
  intro given
  have relative : ∀ first, ["", "../b"].find? (fun part => part ≠ "") = some first →
      Key.isRooted first = false := by
    intro first found
    obtain rfl : "../b" = first := Option.some.inj found
    rfl
  have accepted : ofString "kv//./x/" = .ok given := rfl
  exact ⟨relative, join_in_stages_and_statusKey.2.1 _ _ relative, by decide +kernel, accepted,
    join_in_stages_and_statusKey.2.2 _ _ "../web" accepted⟩

end KeyPrefix

end StatusLookup
