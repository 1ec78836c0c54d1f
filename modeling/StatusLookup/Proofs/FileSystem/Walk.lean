import StatusLookup.FileSystem.Tree
import StatusLookup.Proofs.Data.Steps
import StatusLookup.Proofs.FileSystem.Join

/-!
# Reading below a path

The path of a record is a base with names joined to it. To read it is to walk the base first and the
names after that. Names never lead up, so the second half needs no more than the tree that the base
leads to: the directories above have no part in it.

Apart from the walk there are limits on the text of a path. They are kept in one place, since a path
that passes them has a base that does.
-/

namespace StatusLookup

/-- What is read at the end of a path of names into a tree. -/
def Tree.read : Tree → List String → Except IoError Bytes
  | .file content, [] => .ok content
  | .directory _, [] => .error .isADirectory
  | .file _, _ :: _ => .error .notADirectory
  | .directory entries, name :: names =>
    if Place.maxNameBytes < name.utf8ByteSize then .error .nameTooLong
    else
      match entries.lookup name with
      | none => .error .notFound
      | some tree => tree.read names

namespace Place

def checkPath (path : String) : Except IoError Unit :=
  if '\x00' ∈ path.toList then .error .nulInName
  else if maxPathBytes ≤ path.utf8ByteSize then .error .nameTooLong
  else .ok ()

/-- Where a path leads when its components are walked, the limits on its text aside. The empty path
has no component that leads anywhere, and stays in place. -/
def follow (place : Place) (path : String) : Except IoError Place :=
  walk (if Key.isRooted path then place.root else place) (Key.segments path)

/-- The tree that a path leads to, when it is taken as the base of longer paths. -/
def subtree (place : Place) (path : String) : Except IoError Tree := do
  checkPath path
  return (← place.follow path).here

def content (place : Place) : Except IoError Bytes :=
  match place.here with
  | .file content => .ok content
  | .directory _ => .error .isADirectory

variable {base path : String} {names : List String}

theorem find_eq (place : Place) (filled : path ≠ "") :
    place.find path = checkPath path >>= fun _ => place.follow path := by
  rw [find, checkPath]
  split
  · rfl
  · split
    · rfl
    · rw [follow, Key.isRooted]
      simp only [beq_iff_eq]
      rfl

theorem readFile_eq (place : Place) (path : String) :
    place.readFile path = place.find path >>= content := by
  rw [readFile]
  cases place.find path with
  | error e => rfl
  | ok found =>
      obtain ⟨here, above⟩ := found
      cases here <;> rfl

theorem readFile_eq_ok_iff {place : Place} {bytes : Bytes} :
    place.readFile path = .ok bytes ↔
      ∃ found, place.find path = .ok found ∧ found.here = .file bytes := by
  rw [readFile_eq, bind_eq_ok_iff]
  refine exists_congr fun found => and_congr_right fun _ => ?_
  obtain ⟨here, above⟩ := found
  cases here with
  | file held => simp [content]
  | directory entries => simp [content]

theorem walk_append (place : Place) (front back : List String) :
    place.walk (front ++ back) = place.walk front >>= (·.walk back) :=
  List.foldlM_append

theorem walk_append_eq_ok_iff {place found : Place} {front back : List String} :
    place.walk (front ++ back) = .ok found ↔
      ∃ stop, place.walk front = .ok stop ∧ stop.walk back = .ok found := by
  rw [walk_append, bind_eq_ok_iff]

theorem walk_cons_eq_ok_iff {place found : Place} {component : String} {rest : List String} :
    place.walk (component :: rest) = .ok found ↔
      ∃ stop, place.step component = .ok stop ∧ stop.walk rest = .ok found := by
  rw [walk, List.foldlM_cons, bind_eq_ok_iff]
  rfl

theorem find_eq_ok_iff {place found : Place} :
    place.find path = .ok found ↔
      path ≠ "" ∧ checkPath path = .ok () ∧ place.follow path = .ok found := by
  by_cases empty : path = ""
  · subst empty
    exact ⟨nofun, fun leads => absurd rfl leads.1⟩
  · rw [find_eq place empty, bind_eq_ok_iff]
    constructor
    · rintro ⟨⟨⟩, within, walked⟩
      exact ⟨empty, within, walked⟩
    · rintro ⟨-, within, walked⟩
      exact ⟨(), within, walked⟩

theorem walk_singleton (place : Place) (component : String) :
    place.walk [component] = place.step component :=
  bind_pure _

/-- A step from a directory into the entry of a name. -/
theorem step_of_isName {name : String} (isName : Key.IsName name) (entries : List (String × Tree))
    (above : List Tree) :
    step ⟨.directory entries, above⟩ name =
      if maxNameBytes < name.utf8ByteSize then .error .nameTooLong
      else
        match entries.lookup name with
        | none => .error .notFound
        | some node => .ok ⟨node, .directory entries :: above⟩ := by
  have loud : ¬ (name = "" ∨ name = ".") := not_or.mpr ⟨isName.1, isName.2.1⟩
  rw [step]
  exact (if_neg loud).trans (if_neg isName.2.2.1)

/-- A step into an entry needs a directory, and so does a step that stays: to stay first makes no
difference. -/
theorem step_empty_step (place : Place) (component : String) :
    (place.step "" >>= (·.step component)) = place.step component := by
  obtain ⟨here, above⟩ := place
  cases here with
  | file content => rfl
  | directory entries => rfl

theorem step_empty_walk (place : Place) {components : List String} (ne_nil : components ≠ []) :
    (place.step "" >>= (·.walk components)) = place.walk components := by
  obtain ⟨component, rest, rfl⟩ := List.exists_cons_of_ne_nil ne_nil
  have first (place : Place) : place.walk (component :: rest) =
      place.step component >>= (·.walk rest) := rfl
  simp only [first, ← bind_assoc, step_empty_step]

/-- A joined path is walked from where its base leads. -/
theorem follow_join (place : Place) (base : String) (relative : Path.isAbsolute path = false) :
    place.follow (Path.join base path) = place.follow base >>= (·.walk (Key.segments path)) := by
  obtain ⟨front, split, joined⟩ := Path.segments_join base relative
  rw [follow, follow, Path.isRooted_join base relative, joined, walk_append]
  rcases split with same | trailing
  · rw [same]
  · simp only [trailing, walk_append, walk_singleton, bind_assoc,
      step_empty_walk _ (Key.segments_ne_nil path)]

theorem follow_foldl_join (place : Place) (base : String)
    (isName : ∀ name ∈ names, Key.IsName name) :
    place.follow (names.foldl Path.join base) = place.follow base >>= (·.walk names) := by
  induction names generalizing base with
  | nil => exact (bind_pure _).symm
  | cons name names ih =>
      obtain ⟨first, others⟩ := List.forall_mem_cons.mp isName
      rw [List.foldl_cons, ih _ others, follow_join place base (Path.isAbsolute_of_isName first),
        Key.segments_of_slash_notMem first.2.2.2, bind_assoc]
      simp only [walk_singleton]
      rfl

/-- What names lead to is a matter of the tree at the place, not of what is above it. -/
theorem walk_content (place : Place) (isName : ∀ name ∈ names, Key.IsName name) :
    (place.walk names >>= content) = place.here.read names := by
  induction names generalizing place with
  | nil =>
      obtain ⟨here, above⟩ := place
      cases here <;> rfl
  | cons name names ih =>
      obtain ⟨single, others⟩ := List.forall_mem_cons.mp isName
      have rest (found : Place) := ih found others
      have first : place.walk (name :: names) = place.step name >>= (·.walk names) := rfl
      rw [first, bind_assoc]
      simp only [rest]
      obtain ⟨here, above⟩ := place
      cases here with
      | file content => rfl
      | directory entries =>
          rw [step_of_isName single, Tree.read]
          split
          · rfl
          · cases entries.lookup name <;> rfl

theorem checkPath_eq_ok_iff :
    checkPath path = .ok () ↔ '\x00' ∉ path.toList ∧ path.utf8ByteSize < maxPathBytes := by
  rw [checkPath]
  split
  · rename_i nul
    simp [nul]
  · rename_i clear
    split
    · rename_i long
      simp [Nat.not_lt.mpr long]
    · rename_i short
      simp [clear, Nat.lt_of_not_le short]

/-- A path within the limits is longer than its parts, and they are within them too. -/
theorem checkPath_append {front back : String} (within : checkPath (front ++ back) = .ok ()) :
    checkPath front = .ok () ∧ checkPath back = .ok () := by
  rw [checkPath_eq_ok_iff, String.toList_append, List.mem_append, String.utf8ByteSize_append]
    at within
  rw [checkPath_eq_ok_iff, checkPath_eq_ok_iff]
  obtain ⟨clear, short⟩ := within
  exact ⟨⟨mt .inl clear, by omega⟩, mt .inr clear, by omega⟩

/-- To read below a base is to read in the tree that the base leads to. -/
theorem readFile_foldl_join (place : Place) (base : String) (ne_nil : names ≠ [])
    (isName : ∀ name ∈ names, Key.IsName name) :
    place.readFile (names.foldl Path.join base) =
      checkPath (names.foldl Path.join base) >>= fun _ =>
        place.subtree base >>= (·.read names) := by
  have filled : names.foldl Path.join base ≠ "" := Path.foldl_join_ne_empty base ne_nil isName
  rw [readFile_eq, find_eq place filled, bind_assoc]
  cases within : checkPath (names.foldl Path.join base) with
  | error e => rfl
  | ok _ =>
      obtain ⟨back, joined⟩ := Path.exists_foldl_join_eq_append base isName
      rw [joined] at within
      show (place.follow _ >>= content) = place.subtree base >>= (·.read names)
      rw [follow_foldl_join place base isName, bind_assoc, subtree, (checkPath_append within).1]
      simp only [walk_content _ isName]
      cases place.follow base <;> rfl

/-- Within the limits, what is read is what the walk leads to. -/
theorem readFile_eq_of_checkPath (place : Place) (filled : path ≠ "")
    (within : checkPath path = .ok ()) : place.readFile path = place.follow path >>= content := by
  rw [readFile_eq, find_eq place filled, within]
  rfl

/-- A base can be walked first. What is joined to it is read in the same way from where it leads. -/
theorem readFile_foldl_join_join {place stop : Place} (leads : place.follow base = .ok stop)
    (relative : Path.isAbsolute path = false) (ne_nil : names ≠ [])
    (isName : ∀ name ∈ names, Key.IsName name)
    (within : checkPath (names.foldl Path.join (Path.join base path)) = .ok ()) :
    place.readFile (names.foldl Path.join (Path.join base path)) =
      stop.readFile (names.foldl Path.join path) := by
  obtain ⟨front, closed, joined⟩ := Path.exists_closed_join_eq_append base
  have within' : checkPath (names.foldl Path.join path) = .ok () := by
    rw [joined path relative, Path.foldl_join_append closed path isName] at within
    exact (checkPath_append within).2
  have walked : place.follow (Path.join base path) = stop.follow path := by
    rw [follow_join place base relative, leads, follow, Key.isRooted, ← Path.isAbsolute, relative]
    rfl
  rw [readFile_eq_of_checkPath place (Path.foldl_join_ne_empty _ ne_nil isName) within,
    readFile_eq_of_checkPath stop (Path.foldl_join_ne_empty _ ne_nil isName) within',
    follow_foldl_join place _ isName, follow_foldl_join stop path isName, walked]

end Place

end StatusLookup
