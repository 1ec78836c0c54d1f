import StatusLookup.FileSystem.Tree
import StatusLookup.Proofs.Data.Entries

/-!
# Trees that change

What a tree holds at a path of names, and how that changes when a file is put at a path or a path is
deleted. Both touch the end of the path alone: what is found elsewhere stays, as long as no file
stands on the way.

A change below a directory can be read as the change of that directory's tree, put back in its
place. In this form it shows that every other directory stays a directory.
-/

namespace StatusLookup.Tree

variable {tree node : Tree} {name other : String} {front back path names : List String}
  {entries : List (String × Tree)}

def node? : Tree → List String → Option Tree
  | tree, [] => some tree
  | .file _, _ :: _ => none
  | .directory entries, name :: names => (entries.lookup name).bind fun tree => tree.node? names

def file? : Tree → Option Bytes
  | .file content => some content
  | .directory _ => none

def content? (tree : Tree) (names : List String) : Option Bytes :=
  (tree.node? names).bind file?

/-- Deletes the file at the end of a path of names, if there is one. A directory there stays. -/
def deleteFile (tree : Tree) (path : List String) : Tree :=
  if (tree.content? path).isSome then tree.delete path else tree

def IsDirectoryAt (tree : Tree) (path : List String) : Prop :=
  ∃ entries, tree.node? path = some (.directory entries)

@[simp] theorem node?_nil (tree : Tree) : tree.node? [] = some tree := by
  cases tree <;> rfl

@[simp] theorem node?_cons (entries : List (String × Tree)) (name : String) (names : List String) :
    (directory entries).node? (name :: names) =
      (entries.lookup name).bind fun tree => tree.node? names := rfl

@[simp] theorem node?_file_cons (content : Bytes) (name : String) (names : List String) :
    (file content).node? (name :: names) = none := rfl

@[simp] theorem content?_file_nil (content : Bytes) : (file content).content? [] = some content :=
  rfl

@[simp] theorem content?_directory_nil (entries : List (String × Tree)) :
    (directory entries).content? [] = none := rfl

@[simp] theorem content?_cons (entries : List (String × Tree)) (name : String)
    (names : List String) :
    (directory entries).content? (name :: names) =
      (entries.lookup name).bind fun tree => tree.content? names := by
  rw [content?, node?_cons, Option.bind_assoc]
  rfl

@[simp] theorem content?_file_cons (content : Bytes) (name : String) (names : List String) :
    (file content).content? (name :: names) = none := rfl

@[simp] theorem content?_empty (names : List String) : (directory []).content? names = none := by
  cases names <;> rfl

/-- An entry that is missing holds what an empty directory holds. -/
theorem content?_getD (found : Option Tree) (names : List String) :
    (found.getD (directory [])).content? names = found.bind fun tree => tree.content? names := by
  cases found with
  | none => exact content?_empty names
  | some tree => rfl

/-! ## Entries -/

@[simp] theorem lookup_setEntry_self (name : String) (node : Tree)
    (entries : List (String × Tree)) : (setEntry name node entries).lookup name = some node := by
  induction entries with
  | nil => exact List.lookup_cons_self
  | cons entry entries ih =>
      rw [setEntry]
      split
      · exact List.lookup_cons_self
      · rename_i different
        rw [Entries.lookup_cons_of_ne (Ne.symm different), ih]

theorem lookup_setEntry_of_ne (different : other ≠ name) (node : Tree)
    (entries : List (String × Tree)) :
    (setEntry name node entries).lookup other = entries.lookup other := by
  induction entries with
  | nil => exact Entries.lookup_cons_of_ne different
  | cons entry entries ih =>
      rw [setEntry]
      split
      · rename_i same
        rw [Entries.lookup_cons_of_ne different, Entries.lookup_cons_of_ne (same.symm ▸ different)]
      · rw [List.lookup_cons, List.lookup_cons, ih]

/-- What is put below a directory changes the entry of the first name. -/
theorem put_cons (entries : List (String × Tree)) (name : String) (path : List String)
    (node : Tree) :
    ∃ entries', (directory entries).put (name :: path) node = directory entries' ∧
      entries'.lookup name = some (((entries.lookup name).getD (directory [])).put path node) ∧
      ∀ other, other ≠ name → entries'.lookup other = entries.lookup other :=
  ⟨_, rfl, lookup_setEntry_self name _ entries,
    fun _ different => lookup_setEntry_of_ne different _ entries⟩

/-- What is deleted below a directory changes the entry of the first name, if there is one. -/
theorem delete_cons (entries : List (String × Tree)) (name : String) (path : List String) :
    ∃ entries', (directory entries).delete (name :: path) = directory entries' ∧
      entries'.lookup name =
        (if path = [] then none else (entries.lookup name).map fun tree => tree.delete path) ∧
      ∀ other, other ≠ name → entries'.lookup other = entries.lookup other := by
  cases path with
  | nil =>
      refine ⟨entries.filter fun entry => entry.1 ≠ name, rfl, ?_, ?_⟩
      · rw [Entries.lookup_filter_ne, if_pos rfl, if_pos rfl]
      · intro other different
        rw [Entries.lookup_filter_ne, if_neg different]
  | cons next path =>
      rw [delete]
      cases found : entries.lookup name with
      | none => exact ⟨entries, rfl, found, fun _ _ => rfl⟩
      | some tree =>
          exact ⟨_, rfl, lookup_setEntry_self name _ entries,
            fun _ different => lookup_setEntry_of_ne different _ entries⟩

/-! ## Files -/

/-- After a file has been put at a path it is there, nothing is below it, and every other file is
where it was. No file may stand on the way. -/
theorem content?_put_file (content : Bytes)
    (free : ∀ front, front <+: path → front ≠ path → tree.content? front = none)
    (names : List String) :
    (tree.put path (.file content)).content? names =
      if names = path then some content
      else if path <+: names then none
      else tree.content? names := by
  induction path generalizing tree names with
  | nil =>
      cases names with
      | nil => simp [put]
      | cons name names => simp [put]
  | cons name path ih =>
      cases tree with
      | file blocking =>
          have blocked := free [] List.nil_prefix (List.cons_ne_nil name path).symm
          simp at blocked
      | directory entries =>
          obtain ⟨entries', changed, here, others⟩ := put_cons entries name path (.file content)
          rw [changed]
          cases names with
          | nil => simp
          | cons other names =>
              by_cases same : other = name
              · subst same
                -- The way is free below the entry too, since a file there lies on the whole way.
                have below : ∀ front, front <+: path → front ≠ path →
                    ((entries.lookup other).getD (directory [])).content? front = none := by
                  intro front isFront proper
                  rw [content?_getD, ← content?_cons]
                  exact free (other :: front) (List.cons_prefix_cons.mpr ⟨rfl, isFront⟩)
                    (by simpa using proper)
                simp only [content?_cons, here, Option.bind_some, ih below, content?_getD,
                  List.cons.injEq, true_and, List.cons_prefix_cons]
              · simp [others other same, same, Ne.symm same, List.cons_prefix_cons]

/-- After a path has been deleted nothing is there or below it, and every other file is where it
was. -/
theorem content?_delete (ne_nil : path ≠ []) (names : List String) :
    (tree.delete path).content? names = if path <+: names then none else tree.content? names := by
  induction path generalizing tree names with
  | nil => contradiction
  | cons name path ih =>
      cases tree with
      | file content => cases names <;> simp [delete]
      | directory entries =>
          obtain ⟨entries', changed, here, others⟩ := delete_cons entries name path
          rw [changed]
          cases names with
          | nil => simp
          | cons other names =>
              by_cases same : other = name
              · subst same
                by_cases last : path = []
                · simp [here, last]
                · cases found : entries.lookup other with
                  | none => simp [here, last, found]
                  | some tree => simp [here, last, found, ih last, List.cons_prefix_cons]
              · simp [others other same, Ne.symm same, List.cons_prefix_cons]

/-- Nothing is below a file. -/
theorem content?_eq_none_of_isPrefix (found : (tree.content? path).isSome)
    (below : path <+: names) (different : names ≠ path) : tree.content? names = none := by
  induction path generalizing tree names with
  | nil =>
      cases tree with
      | directory entries => contradiction
      | file content =>
          cases names with
          | nil => contradiction
          | cons name names => rfl
  | cons name path ih =>
      obtain ⟨back, rfl⟩ := below
      cases tree with
      | file content => contradiction
      | directory entries =>
          rw [List.cons_append, content?_cons]
          rw [content?_cons] at found
          cases entry : entries.lookup name with
          | none => rfl
          | some tree =>
              rw [entry] at found
              exact ih found (List.prefix_append path back) (by simpa using different)

/-- After a file has been deleted it is not there, and every other file is where it was. -/
theorem content?_deleteFile (ne_nil : path ≠ []) (names : List String) :
    (tree.deleteFile path).content? names = if names = path then none else tree.content? names := by
  rw [deleteFile]
  split
  · rename_i found
    rw [content?_delete ne_nil]
    by_cases same : names = path
    · rw [if_pos same, if_pos (same ▸ List.prefix_rfl)]
    · rw [if_neg same]
      split
      · rename_i below
        exact (content?_eq_none_of_isPrefix found below same).symm
      · rfl
  · rename_i missing
    split
    · rename_i same
      rw [same]
      simpa using missing
    · rfl

/-! ## Directories -/

theorem node?_append (tree : Tree) (front back : List String) :
    tree.node? (front ++ back) = (tree.node? front).bind fun node => node.node? back := by
  induction front generalizing tree with
  | nil => simp
  | cons name front ih =>
      cases tree with
      | file content => rfl
      | directory entries =>
          simp only [List.cons_append, node?_cons, ih, Option.bind_assoc]

theorem content?_append (leads : tree.node? front = some node) (back : List String) :
    tree.content? (front ++ back) = node.content? back := by
  rw [content?, node?_append, leads]
  rfl

/-- What has something below it is a directory. -/
theorem isDirectoryAt_of_append (leads : tree.node? (front ++ back) = some node)
    (ne_nil : back ≠ []) : tree.IsDirectoryAt front := by
  obtain ⟨name, rest, rfl⟩ := List.exists_cons_of_ne_nil ne_nil
  rw [node?_append] at leads
  obtain ⟨middle, found, below⟩ := Option.bind_eq_some_iff.mp leads
  cases middle with
  | file content => simp at below
  | directory entries => exact ⟨entries, found⟩

/-- A change below a directory is a change of its tree. -/
theorem put_append (leads : tree.node? front = some node) (back : List String) (new : Tree) :
    tree.put (front ++ back) new = tree.put front (node.put back new) := by
  induction front generalizing tree with
  | nil =>
      obtain rfl : tree = node := by simpa using leads
      rfl
  | cons name front ih =>
      cases tree with
      | file content => simp at leads
      | directory entries =>
          obtain ⟨child, found, rest⟩ := Option.bind_eq_some_iff.mp leads
          simp only [List.cons_append, put, found, Option.getD_some, ih rest]

theorem delete_append (leads : tree.node? front = some node) (ne_nil : back ≠ []) :
    tree.delete (front ++ back) = tree.put front (node.delete back) := by
  induction front generalizing tree with
  | nil =>
      obtain rfl : tree = node := by simpa using leads
      rfl
  | cons name front ih =>
      cases tree with
      | file content => simp at leads
      | directory entries =>
          obtain ⟨child, found, rest⟩ := Option.bind_eq_some_iff.mp leads
          obtain ⟨next, path, split⟩ :=
            List.exists_cons_of_ne_nil (List.append_ne_nil_of_right_ne_nil front ne_nil)
          have deleted := ih rest
          rw [split] at deleted
          simp only [List.cons_append, split, put, delete, found, Option.getD_some, deleted]

theorem node?_put_self (leads : tree.node? path = some node) (new : Tree) :
    (tree.put path new).node? path = some new := by
  induction path generalizing tree with
  | nil => rw [put, node?_nil]
  | cons name path ih =>
      cases tree with
      | file content => simp at leads
      | directory entries =>
          obtain ⟨child, found, rest⟩ := Option.bind_eq_some_iff.mp leads
          obtain ⟨entries', changed, here, _⟩ := put_cons entries name path new
          rw [changed, node?_cons, here, Option.bind_some, found, Option.getD_some, ih rest]

/-- A directory stays one, unless it is what is replaced or lies below that. -/
theorem IsDirectoryAt.put {other : List String} (isDirectory : tree.IsDirectoryAt other)
    (apart : ¬ path <+: other) (new : Tree) : (tree.put path new).IsDirectoryAt other := by
  induction path generalizing tree other with
  | nil => exact absurd List.nil_prefix apart
  | cons name path ih =>
      obtain ⟨below, leads⟩ := isDirectory
      cases tree with
      | file content => exact ⟨below, leads⟩
      | directory entries =>
          obtain ⟨entries', changed, here, others⟩ := put_cons entries name path new
          rw [changed]
          cases other with
          | nil => exact ⟨entries', node?_nil _⟩
          | cons first other =>
              obtain ⟨child, found, rest⟩ := Option.bind_eq_some_iff.mp leads
              by_cases same : first = name
              · subst same
                have kept : (child.put path new).IsDirectoryAt other :=
                  ih ⟨below, rest⟩ fun inside => apart (List.cons_prefix_cons.mpr ⟨rfl, inside⟩)
                rw [IsDirectoryAt, node?_cons, here, Option.bind_some, found, Option.getD_some]
                exact kept
              · rw [IsDirectoryAt, node?_cons, others first same]
                exact ⟨below, leads⟩

end StatusLookup.Tree
