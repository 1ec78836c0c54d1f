import StatusLookup.Proofs.FileSystem.Tree
import StatusLookup.Proofs.FileSystem.Walk
import StatusLookup.Proofs.Key.Segments
import StatusLookup.Proofs.Store.Memory
import StatusLookup.Proofs.Store.Run

/-!
# A tree that mirrors a memory store

The records of a memory store are files of a tree, each at the names of its key. The tree holds more
than the store: a key may also lead to a directory, or into a file, or nowhere at any depth, and
directories stay when the files in them go. None of this shows in the content of files, and a store
of files makes the same of all of it: there is no record.

All records lie at one depth. So no record is on the way to another one, and a record that is put
never meets a file on its way or a directory in its place.
-/

namespace StatusLookup

/-- Names that are not too long are read as the content of the file at their end. Where there is
none, the reasons make no difference. -/
theorem FileStore.ofContent_read (key : String) {names : List String} (tree : Tree)
    (short : ∀ name ∈ names, name.utf8ByteSize ≤ Place.maxNameBytes) :
    ofContent key (tree.read names) = .ok ((tree.content? names).map (Record.mk key)) := by
  induction names generalizing tree with
  | nil => cases tree <;> rfl
  | cons name names ih =>
      cases tree with
      | file content => rfl
      | directory entries =>
          obtain ⟨first, others⟩ := List.forall_mem_cons.mp short
          rw [Tree.read, if_neg (Nat.not_lt.mpr first), Tree.content?_cons]
          cases entries.lookup name with
          | none => rfl
          | some tree => exact ih tree others

namespace Memory

/-- The files of a tree are the records of a store, and all of them lie at one depth. -/
structure MirroredBy (depth : Nat) (store : Memory) (tree : Tree) : Prop where
  content : ∀ names, (∀ name ∈ names, Key.IsName name) →
    tree.content? names = store.get? (Key.ofSegments names)
  deep : ∀ names content, tree.content? names = some content → names.length = depth

namespace MirroredBy

variable {depth : Nat} {store : Memory} {tree : Tree} {path names : List String}

theorem empty (depth : Nat) : MirroredBy depth .empty (.directory []) where
  content names _ := Tree.content?_empty names
  deep names content found := by
    rw [Tree.content?_empty] at found
    contradiction

theorem content?_eq_none (mirrored : MirroredBy depth store tree)
    (different : names.length ≠ depth) : tree.content? names = none := by
  rw [Option.eq_none_iff_forall_ne_some]
  intro content found
  exact different (mirrored.deep names content found)

private theorem ofSegments_eq_iff (isName : ∀ name ∈ path, Key.IsName name)
    (isName' : ∀ name ∈ names, Key.IsName name) :
    Key.ofSegments names = Key.ofSegments path ↔ names = path := by
  constructor
  · apply Key.ofSegments_injective
    · intro name member
      exact ⟨(isName' name member).1, (isName' name member).2.2.2⟩
    · intro name member
      exact ⟨(isName name member).1, (isName name member).2.2.2⟩
  · rintro rfl
    rfl

theorem put (mirrored : MirroredBy depth store tree) (isName : ∀ name ∈ path, Key.IsName name)
    (deep : path.length = depth) (value : Bytes) :
    MirroredBy depth (store.put (Key.ofSegments path) value) (tree.put path (.file value)) := by
  have content (names : List String) :
      (tree.put path (.file value)).content? names =
        if names = path then some value else tree.content? names := by
    rw [Tree.content?_put_file]
    · split
      · rfl
      · rename_i different
        split
        -- Below the new file there was nothing before: it would lie deeper than all records.
        · rename_i below
          rw [mirrored.content?_eq_none]
          intro same
          exact different (below.eq_of_length (deep.trans same.symm)).symm
        · rfl
    · intro front isFront proper
      apply mirrored.content?_eq_none
      intro same
      exact proper (isFront.eq_of_length (same.trans deep.symm))
  constructor
  case content =>
    intro names isName'
    rw [content, get?_put, mirrored.content names isName']
    simp only [ofSegments_eq_iff isName isName']
  case deep =>
    intro names value' found
    rw [content] at found
    split at found
    · rename_i same
      rw [same, deep]
    · exact mirrored.deep names value' found

theorem erase (mirrored : MirroredBy depth store tree) (ne_nil : path ≠ [])
    (isName : ∀ name ∈ path, Key.IsName name) :
    MirroredBy depth (store.erase (Key.ofSegments path)) (tree.deleteFile path) := by
  constructor
  case content =>
    intro names isName'
    rw [Tree.content?_deleteFile ne_nil, get?_erase, mirrored.content names isName']
    simp only [ofSegments_eq_iff isName isName']
  case deep =>
    intro names value found
    rw [Tree.content?_deleteFile ne_nil] at found
    split at found
    · contradiction
    · exact mirrored.deep names value found

/-- What is read in the tree is what the store has. -/
theorem ofContent_read (mirrored : MirroredBy depth store tree)
    (isName : ∀ name ∈ names, Key.IsName name)
    (short : ∀ name ∈ names, name.utf8ByteSize ≤ Place.maxNameBytes) (key : String) :
    FileStore.ofContent key (tree.read names) =
      .ok ((store.get? (Key.ofSegments names)).map (Record.mk key)) := by
  rw [FileStore.ofContent_read key tree short, mirrored.content names isName]

end MirroredBy

end Memory

end StatusLookup
