import StatusLookup.Proofs.FileSystem.Tree
import StatusLookup.Proofs.FileSystem.Walk
import StatusLookup.Proofs.Key.Walk

/-!
# A file system that is written to

Without links, the names that a path leads to can be read off its text: double dots take names away
again. So a file system is a tree and the names of its current directory, and to write a file is to
put it into the tree at the names of its path.

The text alone does not say whether a path can be walked, and what is written may bar the way of
another path. A base that leads to a directory is therefore followed through the changes: as long as
its way never comes back from below that directory, whatever is written or removed below it changes
the tree there and leaves the way open. For an empty directory there is no other way.
-/

namespace StatusLookup

namespace Place

variable {tree : Tree} {names components : List String} {component : String}

/-- The place that names lead to from the root directory of a tree, the last name first. Where
nothing is, an empty directory stands in. -/
def ofNames (tree : Tree) : List String → Place
  | [] => ⟨tree, []⟩
  | name :: names =>
    ⟨(tree.node? (name :: names).reverse).getD (.directory []),
      (ofNames tree names).here :: (ofNames tree names).above⟩

theorem ofNames_here (tree : Tree) (names : List String) :
    (ofNames tree names).here = (tree.node? names.reverse).getD (.directory []) := by
  cases names with
  | nil => rw [List.reverse_nil, Tree.node?_nil]; rfl
  | cons name names => rfl

theorem ofNames_root (tree : Tree) (names : List String) :
    (ofNames tree names).root = ofNames tree [] := by
  induction names with
  | nil => rfl
  | cons name names ih => rw [← ih, ofNames, root, root, List.getLast?_cons, Option.getD_some]

/-- A step from a directory leads to the place that is named, if there is anything. -/
theorem step_ofNames (isDirectory : tree.IsDirectoryAt names.reverse)
    (clear : '/' ∉ component.toList) :
    (ofNames tree names).step component =
      if Key.IsName component ∧ maxNameBytes < component.utf8ByteSize then .error .nameTooLong
      else
        match tree.node? (Key.walkStep names component).reverse with
        | none => .error .notFound
        | some _ => .ok (ofNames tree (Key.walkStep names component)) := by
  obtain ⟨entries, leads⟩ := isDirectory
  have here : (ofNames tree names).here = .directory entries := by
    rw [ofNames_here, leads]
    rfl
  rw [step, here]
  rcases Key.segment_cases clear with silent | rfl | isName
  · have unnamed : ¬ Key.IsName component := fun isName => silent.elim isName.1 isName.2.1
    have stays : Key.walkStep names component = names := if_pos silent
    simp only [silent, if_true, unnamed, false_and, if_false, stays, leads]
  · have unnamed : ¬ Key.IsName ".." := by decide
    have back : Key.walkStep names ".." = names.tail := rfl
    simp only [unnamed, false_and, if_false, back]
    cases names with
    | nil => simp [ofNames]
    | cons name names =>
        have up : tree.IsDirectoryAt names.reverse := by
          rw [List.reverse_cons] at leads
          exact Tree.isDirectoryAt_of_append leads (List.cons_ne_nil name [])
        obtain ⟨entries', found⟩ := up
        simp [ofNames, found]
  · have pushed := Key.walkStep_of_isName names isName
    have below : tree.node? (component :: names).reverse = entries.lookup component := by
      rw [List.reverse_cons, Tree.node?_append, leads]
      simp
    have silent : ¬ (component = "" ∨ component = ".") := not_or.mpr ⟨isName.1, isName.2.1⟩
    simp only [silent, isName.2.2.1, if_false, isName, true_and, pushed, below]
    split
    · rfl
    · cases found : entries.lookup component with
      | none => rfl
      | some node =>
          rw [ofNames, below, found, here]
          rfl

/-- On the way from the names through the components there are directories only, and no name is too
long. -/
structure Passes (tree : Tree) (names components : List String) : Prop where
  directories : ∀ front, front <+: components →
    tree.IsDirectoryAt (front.foldl Key.walkStep names).reverse
  short : ∀ component ∈ components, Key.IsName component →
    component.utf8ByteSize ≤ maxNameBytes

theorem Passes.tail (passes : Passes tree names (component :: components)) :
    Passes tree (Key.walkStep names component) components where
  directories front isFront :=
    passes.directories (component :: front) (List.cons_prefix_cons.mpr ⟨rfl, isFront⟩)
  short other member := passes.short other (List.mem_cons_of_mem component member)

/-- A walk that passes leads to the place that its components name. -/
theorem walk_of_passes (clear : ∀ component ∈ components, '/' ∉ component.toList)
    (passes : Passes tree names components) :
    (ofNames tree names).walk components =
      .ok (ofNames tree (components.foldl Key.walkStep names)) := by
  induction components generalizing names with
  | nil => rfl
  | cons component components ih =>
      obtain ⟨single, others⟩ := List.forall_mem_cons.mp clear
      have start : tree.IsDirectoryAt names.reverse := passes.directories [] List.nil_prefix
      obtain ⟨entries, found⟩ := passes.tail.directories [] List.nil_prefix
      have leads : tree.node? (Key.walkStep names component).reverse = _ := found
      have fits : ¬ (Key.IsName component ∧ maxNameBytes < component.utf8ByteSize) := by
        rintro ⟨isName, long⟩
        exact Nat.not_lt.mpr (passes.short component List.mem_cons_self isName) long
      have first := step_ofNames start single
      rw [if_neg fits, leads] at first
      rw [walk, List.foldlM_cons, first]
      exact ih others passes.tail

/-- A walk that ends at a directory begins at one. -/
theorem exists_directory_of_walk {place final : Place} {entries : List (String × Tree)}
    (walked : place.walk components = .ok final) (ends : final.here = .directory entries) :
    ∃ entries, place.here = .directory entries := by
  cases here : place.here with
  | directory entries => exact ⟨entries, rfl⟩
  | file content =>
      cases components with
      | nil =>
          obtain rfl : place = final := Except.ok.inj walked
          exact absurd (here.symm.trans ends) nofun
      | cons component components =>
          rw [walk, List.foldlM_cons, step, here] at walked
          contradiction

/-- A walk that ends at a directory passes. -/
theorem passes_of_walk (clear : ∀ component ∈ components, '/' ∉ component.toList)
    (start : tree.IsDirectoryAt names.reverse) {place : Place} {entries : List (String × Tree)}
    (walked : (ofNames tree names).walk components = .ok place)
    (ends : place.here = .directory entries) : Passes tree names components := by
  induction components generalizing names with
  | nil =>
      refine ⟨fun front isFront => ?_, nofun⟩
      rw [List.prefix_nil.mp isFront]
      exact start
  | cons component components ih =>
      obtain ⟨single, others⟩ := List.forall_mem_cons.mp clear
      rw [walk, List.foldlM_cons, step_ofNames start single] at walked
      split at walked
      · contradiction
      · rename_i fits
        cases found : tree.node? (Key.walkStep names component).reverse with
        | none =>
            rw [found] at walked
            contradiction
        | some node =>
            rw [found] at walked
            obtain ⟨below, here⟩ := exists_directory_of_walk walked ends
            rw [ofNames_here, found, Option.getD_some] at here
            have rest := ih others ⟨below, here ▸ found⟩ walked
            refine ⟨fun front isFront => ?_, fun other member isName => ?_⟩
            · cases front with
              | nil => exact start
              | cons first front =>
                  obtain ⟨rfl, inside⟩ := List.cons_prefix_cons.mp isFront
                  exact rest.directories front inside
            · rcases List.mem_cons.mp member with rfl | later
              · exact Nat.not_lt.mp fun long => fits ⟨isName, long⟩
              · exact rest.short other later isName

end Place

/-- A file system: its tree from the root directory on, and the names that lead to the current
directory, the last one first. -/
structure Disk where
  tree : Tree
  position : List String

namespace Disk

def place (disk : Disk) : Place :=
  .ofNames disk.tree disk.position

/-- The names from which a path is walked: none for an absolute path. -/
def start (disk : Disk) (path : String) : List String :=
  if Key.isRooted path then [] else disk.position

/-- The names at the end of a path, the last one first. Without links they can be read off the
path. -/
def locate (disk : Disk) (path : String) : List String :=
  Key.walk disk.position path

/-- Writes a file, making the directories on the way. -/
def write (disk : Disk) (path : String) (content : Bytes) : Disk :=
  { disk with tree := disk.tree.put (disk.locate path).reverse (.file content) }

/-- Removes the file at the end of a path, if there is one. -/
def remove (disk : Disk) (path : String) : Disk :=
  { disk with tree := disk.tree.deleteFile (disk.locate path).reverse }

variable {disk : Disk} {base path : String} {tree new : Tree} {names : List String}

theorem follow_eq (disk : Disk) (path : String) :
    disk.place.follow path =
      (Place.ofNames disk.tree (disk.start path)).walk (Key.segments path) := by
  rw [Place.follow, place, Place.ofNames_root, start]
  split <;> rfl

/-- A directory at the end of a path that is within the limits, with directories on all of the way.
The way never leads below that directory, so what happens there cannot bar it. -/
structure Holds (disk : Disk) (base : String) (tree : Tree) : Prop where
  within : Place.checkPath base = .ok ()
  passes : Place.Passes disk.tree (disk.start base) (Key.segments base)
  apart : ∀ front, front <+: Key.segments base →
    (disk.locate base).reverse <+: (front.foldl Key.walkStep (disk.start base)).reverse →
    front.foldl Key.walkStep (disk.start base) = disk.locate base
  leads : disk.tree.node? (disk.locate base).reverse = some tree

theorem Holds.subtree_eq (holds : disk.Holds base tree) : disk.place.subtree base = .ok tree := by
  have walked := Place.walk_of_passes (fun _ => Key.slash_notMem_of_mem_segments) holds.passes
  have here : (Place.ofNames disk.tree (disk.locate base)).here = tree := by
    rw [Place.ofNames_here, holds.leads]
    rfl
  rw [Place.subtree, holds.within, follow_eq, walked]
  exact congrArg Except.ok here

theorem Holds.exists_eq_directory (holds : disk.Holds base tree) :
    ∃ entries, tree = .directory entries := by
  obtain ⟨entries, found⟩ := holds.passes.directories (Key.segments base) List.prefix_rfl
  exact ⟨entries, Option.some.inj (holds.leads.symm.trans found)⟩

/-- The walk of a path starts at a directory, as long as the current directory is there. -/
theorem isDirectoryAt_start (current : disk.tree.IsDirectoryAt disk.position.reverse)
    (path : String) : disk.tree.IsDirectoryAt (disk.start path).reverse := by
  rw [start]
  split
  · by_cases top : disk.position.reverse = []
    · rwa [top] at current
    · obtain ⟨entries, leads⟩ := current
      have below : disk.tree.node? ([] ++ disk.position.reverse) = some (.directory entries) :=
        leads
      exact Tree.isDirectoryAt_of_append below top
  · exact current

/-- An empty directory that a path leads to is held, because nothing is below it. -/
theorem holds_of_subtree_eq (current : disk.tree.IsDirectoryAt disk.position.reverse)
    (empty : disk.place.subtree base = .ok (.directory [])) : disk.Holds base (.directory []) := by
  have clear : ∀ segment ∈ Key.segments base, '/' ∉ segment.toList :=
    fun _ => Key.slash_notMem_of_mem_segments
  rw [Place.subtree, follow_eq] at empty
  obtain ⟨⟨⟩, within, followed⟩ := bind_eq_ok_iff.mp empty
  obtain ⟨found, walked, ends⟩ := bind_eq_ok_iff.mp followed
  have here : found.here = .directory [] := Except.ok.inj ends
  have passes := Place.passes_of_walk clear (isDirectoryAt_start current base) walked here
  have leads : disk.tree.node? (disk.locate base).reverse = some (.directory []) := by
    obtain ⟨entries, leads⟩ := passes.directories (Key.segments base) List.prefix_rfl
    rw [Place.walk_of_passes clear passes] at walked
    rw [← Except.ok.inj walked, Place.ofNames_here, leads, Option.getD_some] at here
    exact here ▸ leads
  refine ⟨within, passes, fun front isFront inside => ?_, leads⟩
  obtain ⟨back, below⟩ := inside
  obtain ⟨entries, found⟩ := passes.directories front isFront
  -- A stop below the empty directory would be a node in it.
  cases back with
  | nil =>
      rw [List.append_nil] at below
      exact (List.reverse_inj.mp below).symm
  | cons name back =>
      rw [← below, Tree.node?_append, leads] at found
      contradiction

theorem Holds.put (holds : disk.Holds base tree) (entries : List (String × Tree)) :
    Holds { disk with tree := disk.tree.put (disk.locate base).reverse (.directory entries) } base
      (.directory entries) := by
  have leads := Tree.node?_put_self holds.leads (.directory entries)
  refine ⟨holds.within, ⟨fun front isFront => ?_, holds.passes.short⟩, holds.apart, leads⟩
  have isDirectory := holds.passes.directories front isFront
  -- The way stops at the directory itself, which is replaced, or outside of it, where all stays.
  by_cases inside : (disk.locate base).reverse <+:
      (front.foldl Key.walkStep (disk.start base)).reverse
  · have same := holds.apart front isFront inside
    exact ⟨entries, same ▸ leads⟩
  · exact isDirectory.put inside (.directory entries)

/-- Names that are joined to a path come after those of the path. -/
theorem locate_foldl_join (disk : Disk) (base : String) (isName : ∀ name ∈ names, Key.IsName name) :
    disk.locate (names.foldl Path.join base) = names.reverse ++ disk.locate base := by
  induction names generalizing base with
  | nil => rfl
  | cons name names ih =>
      obtain ⟨named, others⟩ := List.forall_mem_cons.mp isName
      have relative := Path.isAbsolute_of_isName named
      obtain ⟨front, split, joined⟩ := Path.segments_join base relative
      rw [Key.segments_of_slash_notMem named.2.2.2] at joined
      have first : disk.locate (Path.join base name) = name :: disk.locate base := by
        rw [locate, locate, Key.walk, Key.walk, Path.isRooted_join base relative, joined,
          List.foldl_append, List.foldl_cons, List.foldl_nil, Key.walkStep_of_isName _ named]
        rcases split with same | trailing
        · rw [same]
        · rw [trailing, List.foldl_append]
          rfl
      rw [List.foldl_cons, ih _ others, first, List.reverse_cons, List.append_assoc,
        List.singleton_append]

/-- To write below the directory that is held is to write in its tree. -/
theorem Holds.write (holds : disk.Holds base tree) (ne_nil : names ≠ [])
    (isName : ∀ name ∈ names, Key.IsName name) (content : Bytes) :
    (disk.write (names.foldl Path.join base) content).Holds base
      (tree.put names (.file content)) := by
  obtain ⟨entries, rfl⟩ := holds.exists_eq_directory
  obtain ⟨name, rest, rfl⟩ := List.exists_cons_of_ne_nil ne_nil
  obtain ⟨entries', changed, _⟩ := Tree.put_cons entries name rest (.file content)
  rw [Disk.write, locate_foldl_join disk base isName, List.reverse_append, List.reverse_reverse,
    Tree.put_append holds.leads, changed]
  exact holds.put entries'

/-- To remove a file below the directory that is held is to delete it in its tree. -/
theorem Holds.remove (holds : disk.Holds base tree) (ne_nil : names ≠ [])
    (isName : ∀ name ∈ names, Key.IsName name) :
    (disk.remove (names.foldl Path.join base)).Holds base (tree.deleteFile names) := by
  rw [Disk.remove, locate_foldl_join disk base isName, List.reverse_append, List.reverse_reverse,
    Tree.deleteFile, Tree.deleteFile, Tree.content?_append holds.leads]
  split
  · obtain ⟨entries, rfl⟩ := holds.exists_eq_directory
    obtain ⟨name, rest, rfl⟩ := List.exists_cons_of_ne_nil ne_nil
    obtain ⟨entries', changed, _⟩ := Tree.delete_cons entries name rest
    rw [Tree.delete_append holds.leads ne_nil, changed]
    exact holds.put entries'
  · exact holds

end Disk

end StatusLookup
