import StatusLookup.Proofs.Key.Depth
import StatusLookup.Proofs.Key.StatusKey
import StatusLookup.Proofs.Lookup.Contract

/-!
# Lookups below a directory

How far the id of a deployment climbs decides what becomes of a lookup over files. As long as the
prefix has a name for every level, the key is a list of names and is looked up below the root, and
only when the climb goes beyond the prefix is the key refused. A climb within the prefix is not
refused, so the key may leave the prefix without leaving the root.
-/

namespace StatusLookup.Repository

/-- The repository of the records below a directory, with its reads noted. -/
def overFiles (root : String) (p : KeyPrefix) : Repository Observed :=
  ⟨(FileStore.toStore ⟨root⟩).recorded, p⟩

variable (root : String) (p : KeyPrefix) (deployment : String) (w : World)

/-- A climb beyond the prefix is refused, and nothing is asked of the file system. -/
theorem observe_status_of_beyond (beyond : p.names.length < Key.climbs deployment) :
    ((overFiles root p).status deployment).observe w =
      (.error (.store (.invalidKey (p.statusKey deployment))),
        ⟨[p.statusKey deployment], [], [readLine (p.statusKey deployment)]⟩) := by
  have refused : FileStore.pathFor ⟨root⟩ (p.statusKey deployment) =
      .error (.invalidKey (p.statusKey deployment)) := by
    refine FileStore.pathFor_eq_error_iff.mpr ⟨rfl, ?_⟩
    rw [p.forall_isName_segments_statusKey_iff]
    omega
  exact observe_status (FileStore.toStore ⟨root⟩) p deployment
    (FileStore.get_run_of_refused refused w _)

def recordPath : String :=
  (Key.segments (p.statusKey deployment)).foldl Path.join root

/-- What the store makes of the file at the path of the status record. -/
def recordAnswer : Except StoreError (Option Record) :=
  FileStore.ofContent (p.statusKey deployment)
    (w.directory.readFile (recordPath root p deployment))

/-- A climb within the prefix is followed, to the one file that the key spells. -/
theorem observe_status_of_within (within : Key.climbs deployment ≤ p.names.length) :
    ∃ lines, ((overFiles root p).status deployment).observe w =
      (ofRead deployment ((recordAnswer root p deployment w).map (·.map Record.value)),
        ⟨[p.statusKey deployment], [.content (recordPath root p deployment)], lines⟩) := by
  have accepted : FileStore.pathFor ⟨root⟩ (p.statusKey deployment) =
      .ok (recordPath root p deployment) :=
    FileStore.pathFor_eq_ok ⟨root⟩ ((p.forall_isName_segments_statusKey_iff deployment).mpr within)
  exact ⟨_, observe_status (FileStore.toStore ⟨root⟩) p deployment
    (FileStore.get_run_of_accepted accepted w _)⟩

/-- The content of a file never makes for a refusal of the key. -/
theorem ofRead_ofContent_ne (key : String) (content : Except IoError Bytes) (refused : String) :
    ofRead deployment ((FileStore.ofContent key content).map (·.map Record.value)) ≠
      .error (.store (.invalidKey refused)) := by
  intro same
  have answer := ((isDecidedBy_ofRead deployment _).store_iff _).mp same
  cases content with
  | ok value => contradiction
  | error e =>
      rw [FileStore.ofContent] at answer
      split at answer
      · contradiction
      · simp [Except.map] at answer

/-- A lookup is refused if and only if the climb goes beyond the prefix. -/
theorem result_eq_invalidKey_iff (key : String) :
    ((overFiles root p).status deployment).result w = .error (.store (.invalidKey key)) ↔
      p.names.length < Key.climbs deployment ∧ key = p.statusKey deployment := by
  by_cases beyond : p.names.length < Key.climbs deployment
  · rw [Observed.result, observe_status_of_beyond root p deployment w beyond]
    simp [beyond, eq_comm]
  · obtain ⟨lines, run⟩ := observe_status_of_within root p deployment w (by omega)
    rw [Observed.result, run]
    simp only [beyond, false_and, iff_false]
    exact ofRead_ofContent_ne deployment _ _ key

theorem trace_status_reads :
    (((overFiles root p).status deployment).trace w).reads = [p.statusKey deployment] := by
  by_cases beyond : p.names.length < Key.climbs deployment
  · rw [Observed.trace, observe_status_of_beyond root p deployment w beyond]
  · obtain ⟨lines, run⟩ := observe_status_of_within root p deployment w (by omega)
    rw [Observed.trace, run]

/-- The closed form of a status key, and what becomes of a lookup over files. The first part says
that the number of levels that the id climbs is the fall of its running depth. -/
theorem statusKey_segments_and_lookup :
    (∀ fall, Key.IsFall (Key.segments deployment) fall ↔ fall = Key.climbs deployment) ∧
      Key.segments (p.statusKey deployment) =
        (if Key.climbs deployment ≤ p.names.length then
          p.names.take (p.names.length - Key.climbs deployment) ++ Key.surviving deployment
            ++ ["status"]
        else
          List.replicate (Key.climbs deployment - p.names.length) ".." ++ Key.surviving deployment
            ++ ["status"]) ∧
      Key.isRooted (p.statusKey deployment) = false ∧ p.statusKey deployment ≠ "" ∧
      (Key.segments (p.statusKey deployment)).getLast? = some "status" ∧
      (((overFiles root p).status deployment).result w =
          .error (.store (.invalidKey (p.statusKey deployment))) ↔
        p.names.length < Key.climbs deployment) ∧
      (p.names.length < Key.climbs deployment →
        (((overFiles root p).status deployment).trace w).accesses = []) ∧
      (Key.climbs deployment ≤ p.names.length →
        (∀ segment ∈ Key.segments (p.statusKey deployment),
          segment ≠ "" ∧ segment ≠ "." ∧ segment ≠ "..") ∧
        (((overFiles root p).status deployment).trace w).accesses =
          [.content ((Key.segments (p.statusKey deployment)).foldl Path.join root)]) := by
  refine ⟨?_, p.segments_statusKey_eq_ite deployment, p.isRooted_statusKey deployment,
    p.statusKey_ne_empty deployment, p.getLast?_segments_statusKey deployment, ?_, ?_, ?_⟩
  · intro fall
    rw [Key.climbs_eq]
    exact Key.isFall_iff fun segment => Key.slash_notMem_of_mem_segments
  · rw [result_eq_invalidKey_iff, and_iff_left rfl]
  · intro beyond
    rw [Observed.trace, observe_status_of_beyond root p deployment w beyond]
  · intro within
    obtain ⟨lines, run⟩ := observe_status_of_within root p deployment w within
    refine ⟨?_, by rw [Observed.trace, run]; rfl⟩
    intro segment member
    have isName := (p.forall_isName_segments_statusKey_iff deployment).mpr within segment member
    exact ⟨isName.1, isName.2.1, isName.2.2.1⟩

/-- The lookup reads a key below the prefix, or the store refuses the key. -/
def IsConfined : Prop :=
  (∃ key back, (((overFiles root p).status deployment).trace w).reads = [key] ∧
      key = p.text ++ "/" ++ back) ∨
    ∃ key, ((overFiles root p).status deployment).result w = .error (.store (.invalidKey key))

/-- A lookup is confined if and only if the climb of the id goes beyond the whole prefix, or the id
leads down again by the names of the prefix that the climb took away. An id without a climb takes no
name away. -/
theorem isConfined_iff :
    IsConfined root p deployment w ↔
      p.names.length < Key.climbs deployment ∨
        p.names.drop (p.names.length - Key.climbs deployment) <+: Key.surviving deployment := by
  have reads := trace_status_reads root p deployment w
  have refusal : (∃ key, ((overFiles root p).status deployment).result w =
      .error (.store (.invalidKey key))) ↔ p.names.length < Key.climbs deployment := by
    simp only [result_eq_invalidKey_iff, exists_and_left, exists_eq, and_true]
  have below : (∃ key back, (((overFiles root p).status deployment).trace w).reads = [key] ∧
      key = p.text ++ "/" ++ back) ↔ ∃ back, p.statusKey deployment = p.text ++ "/" ++ back := by
    simp [reads]
  rw [IsConfined, refusal, below]
  by_cases beyond : p.names.length < Key.climbs deployment
  · simp only [beyond, or_true, true_or]
  · rw [p.exists_statusKey_eq_iff (Nat.le_of_not_lt beyond)]
    simp only [beyond, or_false, false_or]

/-- A directory in which a record lies beside the standard prefix. -/
def besidePrefix : World :=
  ⟨⟨.directory [("kv", .directory [("x", .directory
    [("status", .file (Utf8.encode "DEPLOYED"))])])], []⟩, .ok "/work", []⟩

/-- One step up is within the prefix, and leads to the record beside it. -/
theorem not_forall_isConfined :
    ((overFiles "kv" .standard).status "../x").result besidePrefix = .ok .deployed ∧
      (((overFiles "kv" .standard).status "../x").trace besidePrefix).reads = ["x/status"] ∧
      ¬ ∀ root p deployment w, IsConfined root p deployment w := by
  have answered :
      ((overFiles "kv" .standard).status "../x").result besidePrefix = .ok .deployed := rfl
  have read :
      (((overFiles "kv" .standard).status "../x").trace besidePrefix).reads = ["x/status"] := rfl
  refine ⟨answered, read, ?_⟩
  intro confined
  obtain ⟨key, back, reads, below⟩ | ⟨key, refused⟩ :=
    confined "kv" .standard "../x" besidePrefix
  · rw [read, List.cons.injEq] at reads
    rw [← reads.1] at below
    have first := congrArg (·.toList.head?) below
    have prefixed : KeyPrefix.standard.text.toList.head? = some '_' := by decide +kernel
    simp [prefixed] at first
  · rw [answered] at refused
    exact absurd refused (by simp)

end StatusLookup.Repository
