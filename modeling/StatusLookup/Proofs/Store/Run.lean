import StatusLookup.Proofs.Observed
import StatusLookup.Store.Files
import StatusLookup.Store.Recorded

/-!
# Runs of a read

What reading a key comes to in a world. A read below a directory either refuses the key and touches
nothing, or asks for the content of one file and does nothing else but write a line when that file
is absent.
-/

namespace StatusLookup

namespace Trace

/-- The trace with more log lines at its end. -/
def addLines (t : Trace) (lines : List LogLine) : Trace :=
  { t with lines := t.lines ++ lines }

@[simp] theorem addLines_nil (t : Trace) : t.addLines [] = t := by
  simp [addLines]

end Trace

namespace FileStore

/-- A key is refused if and only if one of its segments is no name, and the refusal names it. -/
theorem pathFor_eq_error_iff {store : FileStore} {key : String} {e : StoreError} :
    store.pathFor key = .error e ↔
      e = .invalidKey key ∧ ¬ ∀ segment ∈ Key.segments key, Key.IsName segment := by
  rw [pathFor]
  by_cases names : ∀ segment ∈ Key.segments key, Key.IsName segment
  · rw [if_pos names]
    exact ⟨nofun, fun refused => absurd names refused.2⟩
  · rw [if_neg names, Except.error.injEq, eq_comm, and_iff_left names]

theorem pathFor_eq_ok {key : String} (store : FileStore)
    (names : ∀ segment ∈ Key.segments key, Key.IsName segment) :
    store.pathFor key = .ok ((Key.segments key).foldl Path.join store.root) :=
  if_pos names

/-- What the store makes of the content of the file at the path of a key. -/
def ofContent (key : String) : Except IoError Bytes → Except StoreError (Option Record)
  | .ok value => .ok (some ⟨key, value⟩)
  | .error e => if isAbsent e then .ok none else .error (.io e)

/-- The line about a file that is absent. -/
def absence (path : String) : Except IoError Bytes → List LogLine
  | .ok _ => []
  | .error e => if isAbsent e then [⟨.debug, "No record at " ++ path⟩] else []

def answer (store : FileStore) (w : World) (key : String) : Except StoreError (Option Record) :=
  match store.pathFor key with
  | .error e => .error e
  | .ok path => ofContent key (w.directory.readFile path)

variable {store : FileStore} {key path : String}

/-- A key that is refused is refused before anything is read. -/
theorem get_run_of_refused {e : StoreError} (refused : store.pathFor key = .error e) (w : World)
    (t : Trace) : ((store.get key : Observed _).run w).run t = (.error e, t) := by
  rw [get, refused]
  rfl

/-- A key that is accepted is answered from the file at its path. -/
theorem get_run_of_accepted (accepted : store.pathFor key = .ok path) (w : World) (t : Trace) :
    ((store.get key : Observed _).run w).run t =
      (ofContent key (w.directory.readFile path),
        (t.addAccess (.content path)).addLines (absence path (w.directory.readFile path))) := by
  rw [get, accepted]
  dsimp only
  rw [Observed.run_bind_of_run (Observed.readFile_run path w t)]
  cases w.directory.readFile path with
  | ok value => exact congrArg (Prod.mk _) (Trace.addLines_nil _).symm
  | error e =>
      simp only [ofContent, absence]
      by_cases absent : isAbsent e = true
      · rw [if_pos absent, if_pos absent, if_pos absent]
        rfl
      · rw [if_neg absent, if_neg absent, if_neg absent, Trace.addLines_nil]
        rfl

/-- A read is answered the same whatever has been done before. -/
theorem get_yields (store : FileStore) (w : World) (key : String) :
    (store.get key : Observed _).Yields w (store.answer w key) := by
  intro t
  rw [answer]
  cases path : store.pathFor key with
  | error e => exact ⟨_, get_run_of_refused path w t⟩
  | ok path' => exact ⟨_, get_run_of_accepted path w t⟩

end FileStore

end StatusLookup
