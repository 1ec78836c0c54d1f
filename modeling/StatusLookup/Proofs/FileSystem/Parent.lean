import Mathlib.Data.List.Basic
import StatusLookup.Proofs.FileSystem.Walk

/-!
# The directory of a file

The parent of a path is found in its text: the last component goes, with the slashes and single dots
before it. Where the path leads to a file, its last component is a name, because all others lead to
directories, and the rest of the path leads to the directory that holds the file. The components
that go with the name stay where they are, so the parent leads there too, whatever way the path is
written.

A double dot leads to a directory only if there are directories above, which is so in every file
system and is all that is asked of one.
-/

namespace StatusLookup

namespace Path

/-- A component that stays where it is. -/
def IsSilent (component : String) : Prop :=
  component = "" ∨ component = "."

/-- Of components in reverse, silent ones are dropped in front, and one component is left. -/
theorem exists_dropSilent {components : List String} (ne_nil : components ≠ []) :
    ∃ silent, components = silent ++ dropSilent components ∧
      (∀ component ∈ silent, IsSilent component) ∧ dropSilent components ≠ [] := by
  induction components with
  | nil => contradiction
  | cons component rest ih =>
      cases rest with
      | nil => exact ⟨[], rfl, nofun, List.cons_ne_nil component []⟩
      | cons before rest =>
          rw [dropSilent]
          split
          · rename_i isSilent
            obtain ⟨silent, split, all, left⟩ := ih (List.cons_ne_nil before rest)
            refine ⟨component :: silent, ?_, List.forall_mem_cons.mpr ⟨isSilent, all⟩, left⟩
            rw [List.cons_append, ← split]
          · exact ⟨[], rfl, nofun, List.cons_ne_nil component _⟩

/-- The components that are left of a list when the silent ones at its end are dropped. -/
def trimmed (components : List String) : List String :=
  (dropSilent components.reverse).reverse

theorem exists_trimmed {components : List String} (ne_nil : components ≠ []) :
    ∃ silent, components = trimmed components ++ silent ∧
      (∀ component ∈ silent, IsSilent component) ∧ trimmed components ≠ [] := by
  obtain ⟨silent, split, all, left⟩ := exists_dropSilent (mt List.reverse_eq_nil_iff.mp ne_nil)
  refine ⟨silent.reverse, ?_, ?_, mt List.reverse_eq_nil_iff.mp left⟩
  · rw [trimmed, ← List.reverse_append, ← split, List.reverse_reverse]
  · intro component member
    exact all component (List.mem_reverse.mp member)

/-- The parent of a path whose last component is a name. -/
theorem parent?_eq {path name : String} {front : List String}
    (split : Key.segments path = front ++ [name]) (isName : Key.IsName name) :
    parent? path = some (if front = [] then "" else if trimmed front = [""] then "/"
      else Key.ofSegments (trimmed front)) := by
  have named : ¬ (name = "" ∨ name = ".") := not_or.mpr ⟨isName.1, isName.2.1⟩
  have kept : dropSilent (Key.segments path).reverse = name :: front.reverse := by
    rw [split, List.reverse_append, List.reverse_singleton, List.singleton_append]
    cases front.reverse with
    | nil => rfl
    | cons before rest => rw [dropSilent, if_neg named]
  rw [Key.segments] at kept
  rw [parent?, kept]
  cases reversed : front.reverse with
  | nil =>
      rw [List.reverse_eq_nil_iff] at reversed
      simp [reversed, isName.1]
  | cons before rest =>
      have filled : front ≠ [] := by
        rintro rfl
        contradiction
      have left : trimmed front = (dropSilent (before :: rest)).reverse := by
        rw [trimmed, reversed]
      rw [if_neg filled, left]
      by_cases top : dropSilent (before :: rest) = [""]
      · simp [top]
      · have below : (dropSilent (before :: rest)).reverse ≠ [""] := by
          simpa [List.reverse_eq_iff] using top
        rw [if_neg below]
        simp [Key.ofSegments]

end Path

namespace Key

/-- The first segment tells whether a key is rooted, unless the key is empty. -/
theorem isRooted_eq_decide {key first : String} {rest : List String}
    (split : segments key = first :: rest) (filled : first = "" → rest ≠ []) :
    isRooted key = decide (first = "") := by
  by_cases empty : first = ""
  · subst empty
    rw [decide_eq_true rfl, isRooted_eq_true_iff]
    refine ⟨ofSegments rest, ?_⟩
    rw [← ofSegments_segments key, split, ofSegments,
      String.intercalate_cons_of_ne_nil (filled rfl), ofSegments, String.empty_append]
  · rw [decide_eq_false empty]
    exact isRooted_eq_false split empty

end Key

namespace Place

/-- All that is above a place are directories. -/
def IsSound (place : Place) : Prop :=
  ∀ up ∈ place.above, ∃ entries, up = .directory entries

variable {place found : Place} {component path : String} {components : List String}

theorem isSound_root (place : Place) : place.root.IsSound :=
  nofun

theorem eq_of_step_silent (silent : Path.IsSilent component)
    (stepped : place.step component = .ok found) : place = found := by
  rw [step] at stepped
  split at stepped
  · contradiction
  · exact Except.ok.inj ((if_pos silent).symm.trans stepped)

theorem above_of_step (isName : Key.IsName component) (stepped : place.step component = .ok found) :
    found.above = place.here :: place.above := by
  obtain ⟨here, above⟩ := place
  cases here with
  | file content => contradiction
  | directory entries =>
      rw [step_of_isName isName] at stepped
      split at stepped
      · contradiction
      · split at stepped
        · contradiction
        · exact congrArg Place.above (Except.ok.inj stepped).symm

/-- A step starts at a directory. It stays there, goes up, or goes to an entry that is named. -/
theorem step_cases (clear : '/' ∉ component.toList) (stepped : place.step component = .ok found) :
    ∃ entries, place.here = .directory entries ∧
      (found = place ∨ place.above = found.here :: found.above ∨
        Key.IsName component ∧ found.above = place.here :: place.above) := by
  obtain ⟨here, above⟩ := place
  cases here with
  | file content => contradiction
  | directory entries =>
      refine ⟨entries, rfl, ?_⟩
      rcases Key.segment_cases clear with silent | rfl | isName
      · exact .inl (eq_of_step_silent silent stepped).symm
      · cases above with
        | nil => exact .inl (Except.ok.inj stepped).symm
        | cons up above =>
            obtain rfl : ⟨up, above⟩ = found := Except.ok.inj stepped
            exact .inr (.inl rfl)
      · exact .inr (.inr ⟨isName, above_of_step isName stepped⟩)

theorem IsSound.step (sound : place.IsSound) (clear : '/' ∉ component.toList)
    (stepped : place.step component = .ok found) : found.IsSound := by
  obtain ⟨entries, here, rfl | up | ⟨_, down⟩⟩ := step_cases clear stepped
  · exact sound
  · intro other member
    exact sound other (up ▸ List.mem_cons_of_mem _ member)
  · intro other member
    rw [down] at member
    rcases List.mem_cons.mp member with rfl | later
    · exact ⟨entries, here⟩
    · exact sound other later

theorem IsSound.walk (sound : place.IsSound)
    (clear : ∀ component ∈ components, '/' ∉ component.toList)
    (walked : place.walk components = .ok found) : found.IsSound := by
  induction components generalizing place with
  | nil =>
      obtain rfl : place = found := Except.ok.inj walked
      exact sound
  | cons component components ih =>
      obtain ⟨single, others⟩ := List.forall_mem_cons.mp clear
      obtain ⟨stop, stepped, rest⟩ := walk_cons_eq_ok_iff.mp walked
      exact ih (sound.step single stepped) others rest

theorem eq_of_walk_silent (silent : ∀ component ∈ components, Path.IsSilent component)
    (walked : place.walk components = .ok found) : place = found := by
  induction components with
  | nil => exact Except.ok.inj walked
  | cons component components ih =>
      obtain ⟨first, others⟩ := List.forall_mem_cons.mp silent
      obtain ⟨stop, stepped, rest⟩ := walk_cons_eq_ok_iff.mp walked
      obtain rfl : place = stop := eq_of_step_silent first stepped
      exact ih others rest

/-- A path to a file ends in a name, and the rest of it leads to the directory of the file. -/
theorem exists_container {content : Bytes} (sound : place.IsSound)
    (leads : place.find path = .ok found) (isFile : found.here = .file content) :
    ∃ front name container, Key.segments path = front ++ [name] ∧ Key.IsName name ∧
      (if Key.isRooted path then place.root else place).walk front = .ok container ∧
      (∃ entries, container.here = .directory entries) ∧ container.step name = .ok found := by
  obtain ⟨-, -, walked⟩ := find_eq_ok_iff.mp leads
  obtain ⟨front, name, split⟩ :=
    (List.eq_nil_or_concat' (Key.segments path)).resolve_left (Key.segments_ne_nil path)
  have clear : ∀ segment ∈ front ++ [name], '/' ∉ segment.toList := by
    intro segment member
    exact Key.slash_notMem_of_mem_segments (split ▸ member)
  obtain ⟨others, single⟩ := List.forall_mem_append.mp clear
  rw [follow, split] at walked
  obtain ⟨container, reached, last⟩ := walk_append_eq_ok_iff.mp walked
  rw [walk_singleton] at last
  have start : (if Key.isRooted path then place.root else place).IsSound := by
    split
    · exact isSound_root place
    · exact sound
  have sound' := start.walk others reached
  -- The last component neither stays nor goes up, since either would lead to a directory.
  obtain ⟨entries, here, rfl | up | ⟨isName, -⟩⟩ :=
    step_cases (single name (List.mem_singleton_self name)) last
  · cases isFile.symm.trans here
  · obtain ⟨entries', isDirectory⟩ := sound' found.here (up ▸ List.mem_cons_self)
    cases isFile.symm.trans isDirectory
  · exact ⟨front, name, container, split, isName, reached, ⟨entries, here⟩, last⟩

/-- The parent of a path leads to where the path leads without its last component. -/
theorem exists_parent {name : String} {front : List String} {container : Place}
    (split : Key.segments path = front ++ [name]) (isName : Key.IsName name)
    (walked : (if Key.isRooted path then place.root else place).walk front = .ok container)
    (isDirectory : ∃ entries, container.here = .directory entries) :
    ∃ base, Path.parent? path = some base ∧ place.follow base = .ok container := by
  refine ⟨_, Path.parent?_eq split isName, ?_⟩
  obtain ⟨entries, here⟩ := isDirectory
  have stays : container.step "" = .ok container := by
    rw [step, here]
    rfl
  have clear : ∀ segment ∈ front, '/' ∉ segment.toList := by
    intro segment member
    exact Key.slash_notMem_of_mem_segments (split ▸ List.mem_append_left [name] member)
  by_cases alone : front = []
  · subst alone
    have relative : Key.isRooted path = false := Key.isRooted_eq_false split isName.1
    rw [relative] at walked
    obtain rfl : place = container := Except.ok.inj walked
    rw [if_pos rfl]
    exact (walk_singleton place "").trans stays
  · rw [if_neg alone]
    obtain ⟨silent, whole, all, left⟩ := Path.exists_trimmed alone
    obtain ⟨first, more, head⟩ := List.exists_cons_of_ne_nil left
    have rooted : Key.isRooted path = decide (first = "") := by
      have split' : Key.segments path = first :: (more ++ silent ++ [name]) := by
        rw [split, whole, head, List.cons_append, List.cons_append]
      exact Key.isRooted_eq_decide split' fun _ => by simp
    have reached : (if Key.isRooted path then place.root else place).walk (Path.trimmed front) =
        .ok container := by
      rw [whole] at walked
      obtain ⟨stop, short, rest⟩ := walk_append_eq_ok_iff.mp walked
      rw [short, eq_of_walk_silent all rest]
    split
    · rename_i top
      obtain ⟨rfl, rfl⟩ := List.cons.inj (head.symm.trans top)
      rw [top, rooted, decide_eq_true rfl, if_pos rfl, walk_singleton] at reached
      have slash : place.follow "/" = place.root.step "" >>= (·.walk [""]) := rfl
      rw [slash, reached]
      exact (walk_singleton container "").trans stays
    · rename_i below
      have segments : Key.segments (Key.ofSegments (Path.trimmed front)) = Path.trimmed front := by
        refine Key.segments_ofSegments left fun segment member => clear segment ?_
        rw [whole]
        exact List.mem_append_left silent member
      have rooted' : Key.isRooted (Key.ofSegments (Path.trimmed front)) = decide (first = "") := by
        refine Key.isRooted_eq_decide (segments.trans head) ?_
        rintro rfl rfl
        exact below head
      rw [follow, segments, rooted', ← rooted]
      exact reached

end Place

end StatusLookup
