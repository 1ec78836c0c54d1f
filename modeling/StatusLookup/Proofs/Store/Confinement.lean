import StatusLookup.Proofs.Data.Entries
import StatusLookup.Proofs.FileSystem.Walk
import StatusLookup.Proofs.Store.Run

/-!
# What a store of files can observe

Two file systems are compared that may differ in everything but the tree at the root of the store.
The root may be written in any way, and may lead nowhere, as long as it does so for one reason in
both. Then no key tells the two apart: a key that is not a list of names is refused before anything
is read, and a list of names is read in the tree at the root.

A directory is what can be found in it, so the order in which its entries are listed is left open.
-/

namespace StatusLookup

namespace Tree

/-- The trees hold the same files and directories, whatever the order of their entries. -/
inductive Alike : Tree → Tree → Prop where
  | file (content : Bytes) : Alike (.file content) (.file content)
  | directory {entries entries' : List (String × Tree)} :
      (∀ name, (entries.lookup name).isSome = (entries'.lookup name).isSome) →
      (∀ name tree tree', entries.lookup name = some tree → entries'.lookup name = some tree' →
        Alike tree tree') →
      Alike (.directory entries) (.directory entries')

theorem Alike.refl : ∀ tree : Tree, tree.Alike tree
  | .file content => .file content
  | .directory entries => by
      refine .directory (fun _ => rfl) fun name tree tree' found found' => ?_
      obtain rfl : tree = tree' := Option.some.inj (found.symm.trans found')
      have smaller := List.sizeOf_lt_of_mem (Entries.mem_of_lookup_eq_some found)
      exact Alike.refl tree
  termination_by tree => sizeOf tree
  decreasing_by
    simp only [Prod.mk.sizeOf_spec, directory.sizeOf_spec] at smaller ⊢
    omega

/-- Directories in which the same entries are found are alike. -/
theorem Alike.of_lookup_eq {entries entries' : List (String × Tree)}
    (same : ∀ name, entries.lookup name = entries'.lookup name) :
    Alike (.directory entries) (.directory entries') := by
  refine .directory (fun name => by rw [same name]) fun name tree tree' found found' => ?_
  obtain rfl : tree = tree' := Option.some.inj (found.symm.trans ((same name).trans found'))
  exact Alike.refl tree

theorem Alike.read_eq {tree tree' : Tree} (alike : tree.Alike tree') (names : List String) :
    tree.read names = tree'.read names := by
  induction alike generalizing names with
  | file content => rfl
  | @directory entries entries' listed _ ih =>
      cases names with
      | nil => rfl
      | cons name names =>
          rw [read, read]
          have same := listed name
          cases found : entries.lookup name with
          | none =>
              cases found' : entries'.lookup name with
              | none => rfl
              | some tree' => simp [found, found'] at same
          | some tree =>
              cases found' : entries'.lookup name with
              | none => simp [found, found'] at same
              | some tree' => simp only [ih name tree tree' found found' names]

end Tree

namespace Place

/-- From both places the base fails in the same way, or leads to trees that are alike. -/
inductive AgreeAt (base : String) (place place' : Place) : Prop where
  | nowhere (e : IoError) :
      place.subtree base = .error e → place'.subtree base = .error e → AgreeAt base place place'
  | alike (tree tree' : Tree) :
      place.subtree base = .ok tree → place'.subtree base = .ok tree' → tree.Alike tree' →
      AgreeAt base place place'

/-- Places that agree at a base read the same file below it. -/
theorem AgreeAt.readFile_eq {base : String} {place place' : Place} {names : List String}
    (agree : AgreeAt base place place') (ne_nil : names ≠ [])
    (isName : ∀ name ∈ names, Key.IsName name) :
    place.readFile (names.foldl Path.join base) = place'.readFile (names.foldl Path.join base) := by
  rw [readFile_foldl_join place base ne_nil isName, readFile_foldl_join place' base ne_nil isName]
  cases agree with
  | nowhere e fails fails' => rw [fails, fails']
  | alike tree tree' leads leads' alike =>
      have same : (Except.ok tree >>= fun found : Tree => found.read names) =
          (Except.ok tree' >>= fun found : Tree => found.read names) := alike.read_eq names
      rw [leads, leads', same]

end Place

namespace FileStore

variable {root : String} {w w' : World}

/-- No key reveals anything but the tree at the root: in two worlds that agree there, whatever else
differs, a read gives the same result, asks the same of the file system and logs the same lines. -/
theorem observe_get_eq_of_agreeAt (agree : Place.AgreeAt root w.directory w'.directory)
    (key : String) :
    ((FileStore.mk root).get key : Observed _).observe w =
      ((FileStore.mk root).get key : Observed _).observe w' := by
  show (((FileStore.mk root).get key : Observed _).run w).run Trace.empty =
    (((FileStore.mk root).get key : Observed _).run w').run Trace.empty
  by_cases names : ∀ segment ∈ Key.segments key, Key.IsName segment
  · have accepted := pathFor_eq_ok ⟨root⟩ names
    rw [get_run_of_accepted accepted, get_run_of_accepted accepted,
      agree.readFile_eq (Key.segments_ne_nil key) names]
  · have refused : pathFor ⟨root⟩ key = .error (.invalidKey key) :=
      pathFor_eq_error_iff.mpr ⟨rfl, names⟩
    rw [get_run_of_refused refused, get_run_of_refused refused]

/-- A directory of records beside the current directory, among other entries. -/
def besideWork (records others : List (String × Tree)) : World :=
  ⟨⟨.directory [], [.directory (("work", .directory []) :: ("kv", .directory records) :: others)]⟩,
    .ok "/work", []⟩

/-- Neither a directory beside the root nor the order of the records shows. -/
theorem observe_get_eq_besideWork :
    let a := ("a", Tree.directory [("status", .file (Utf8.encode "DEPLOYED"))])
    let b := ("b", Tree.file (Utf8.encode "b"))
    let w := besideWork [a, b] []
    let w' := besideWork [b, a] [("secret", .directory [a])]
    Place.AgreeAt "../work/..//kv/" w.directory w'.directory ∧
      ((FileStore.mk "../work/..//kv/").get "a/status" : Observed _).observe w =
        ((FileStore.mk "../work/..//kv/").get "a/status" : Observed _).observe w' := by
  intro a b w w'
  have agree : Place.AgreeAt "../work/..//kv/" w.directory w'.directory := by
    refine .alike (.directory [a, b]) (.directory [b, a]) rfl rfl (.of_lookup_eq fun name => ?_)
    by_cases first : name = "a"
    · rw [first]
      rfl
    · have other : (name == "a") = false := beq_eq_false_iff_ne.mpr first
      simp only [a, b, List.lookup_cons, List.lookup_nil, other]
  exact ⟨agree, observe_get_eq_of_agreeAt agree "a/status"⟩

end FileStore

end StatusLookup
