import StatusLookup.Proofs.FileSystem.Components
import StatusLookup.Proofs.Key.Validation
import StatusLookup.Proofs.Store.Run

/-!
# Which keys have a path

The store looks at the segments of a key as it is written, and the check of a key prefix at what is
left of a text once it is resolved. They agree on the texts that resolving leaves as they are: a key
has a path exactly when it is a prefix and is spelled as that prefix is.

The path of a key has the components of the root and then the segments of the key, so no two keys
have the same path.
-/

namespace StatusLookup.FileStore

theorem exists_text_eq {key : String}
    (isName : ∀ segment ∈ Key.segments key, Key.IsName segment) : ∃ p : KeyPrefix, p.text = key :=
  ⟨⟨Key.segments key, Key.segments_ne_nil key, isName⟩, Key.ofSegments_segments key⟩

/-- A text is a list of names if and only if it is accepted as a prefix with the same text. -/
theorem forall_isName_segments_iff {key : String} :
    (∀ segment ∈ Key.segments key, Key.IsName segment) ↔
      ∃ p, KeyPrefix.ofString key = .ok p ∧ p.text = key := by
  constructor
  · intro isName
    obtain ⟨p, spelled⟩ := exists_text_eq isName
    exact ⟨p, spelled ▸ p.ofString_text, spelled⟩
  · rintro ⟨p, -, rfl⟩
    rw [p.segments_text]
    exact p.isName

theorem pathFor_eq_ok_iff {store : FileStore} {key path : String} :
    store.pathFor key = .ok path ↔
      (∀ segment ∈ Key.segments key, Key.IsName segment) ∧ path = Path.join store.root key := by
  by_cases isName : ∀ segment ∈ Key.segments key, Key.IsName segment
  · rw [pathFor_eq_ok store isName, Path.foldl_join_segments store.root isName, Except.ok.injEq,
      eq_comm, and_iff_right isName]
  · rw [pathFor_eq_error_iff.mpr ⟨rfl, isName⟩]
    simp [isName]

/-- The path of a key consists of the root and the segments of the key. -/
theorem components_of_pathFor {store : FileStore} {key path : String}
    (accepted : store.pathFor key = .ok path) :
    Path.components path = Path.components store.root ++ Key.segments key := by
  obtain ⟨isName, rfl⟩ := pathFor_eq_ok_iff.mp accepted
  exact Path.components_join store.root isName

/-- Two keys that have a path have different ones. -/
theorem eq_of_components_eq {store : FileStore} {key other path path' : String}
    (accepted : store.pathFor key = .ok path) (accepted' : store.pathFor other = .ok path')
    (same : Path.components path = Path.components path') : key = other := by
  rw [components_of_pathFor accepted, components_of_pathFor accepted',
    List.append_cancel_left_eq] at same
  exact Key.segments_inj.mp same

/-- The check of a key and the check of a prefix draw the same line. A key has a path if and only if
it is accepted as a prefix and is spelled as that prefix, and it is refused by its own text if it is
not. The path is the root and then exactly the segments of the key, so different keys have
different paths. -/
theorem pathFor_agrees_with_ofString (root key : String) :
    (∀ path, pathFor ⟨root⟩ key = .ok path ↔
        (∃ p, KeyPrefix.ofString key = .ok p ∧ p.text = key) ∧ path = Path.join root key) ∧
      (∀ e, pathFor ⟨root⟩ key = .error e ↔
        ¬ (∃ p, KeyPrefix.ofString key = .ok p ∧ p.text = key) ∧ e = .invalidKey key) ∧
      (∀ path, pathFor ⟨root⟩ key = .ok path →
        Path.components path = Path.components root ++ Key.segments key) ∧
      ∀ other path path', pathFor ⟨root⟩ key = .ok path → pathFor ⟨root⟩ other = .ok path' →
        Path.components path = Path.components path' → key = other := by
  refine ⟨?_, ?_, fun _ => components_of_pathFor, fun _ _ _ => eq_of_components_eq⟩
  · intro path
    rw [pathFor_eq_ok_iff, forall_isName_segments_iff]
  · intro e
    rw [pathFor_eq_error_iff, forall_isName_segments_iff, and_comm]

/-- A root may end in slashes. A key with a single dot in it has no path. -/
theorem pathFor_agrees_below_slashes :
    pathFor ⟨"kv//"⟩ "a/b" = .ok "kv//a/b" ∧
      Path.components "kv//a/b" = Path.components "kv//" ++ Key.segments "a/b" ∧
      pathFor ⟨"kv//"⟩ "ab" ≠ .ok "kv//a/b" ∧
      pathFor ⟨"kv//"⟩ "a/./b" = .error (.invalidKey "a/./b") := by
  have accepted : pathFor ⟨"kv//"⟩ "a/b" = .ok "kv//a/b" := rfl
  have agrees := pathFor_agrees_with_ofString "kv//" "a/b"
  have composed := agrees.2.2.1 _ accepted
  refine ⟨accepted, composed, ?_, rfl⟩
  intro shared
  exact absurd (agrees.2.2.2 _ _ _ accepted shared rfl) (by decide)

end StatusLookup.FileStore
