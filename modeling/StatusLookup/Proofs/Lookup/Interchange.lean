import StatusLookup.Proofs.Key.Sharing
import StatusLookup.Proofs.Lookup.Backing
import StatusLookup.Proofs.Store.Mirror

/-!
# Memory in the place of files

A repository over a memory store and one over an empty directory cannot be told apart by a run of
requests, however long. Records are put and removed under single names, so they all lie at one depth
below the directory; questions may be about any deployment whose key stays below it. Such a key may
well name a directory, or lead into a record: a memory store, which knows keys as texts only, has
nothing there, and neither has a store of files.

The names have to be names that a file system takes. A directory limits their length and the length
of paths, and a memory store does not.
-/

namespace StatusLookup

/-- The path of a key below a directory, and each segment of the key, are within the limits of a
file system. -/
def FileStore.Fits (root key : String) : Prop :=
  '\x00' ∉ (Path.join root key).toList ∧ (Path.join root key).utf8ByteSize < Place.maxPathBytes ∧
    ∀ segment ∈ Key.segments key, segment.utf8ByteSize ≤ Place.maxNameBytes

instance (root key : String) : Decidable (FileStore.Fits root key) :=
  inferInstanceAs (Decidable (_ ∧ _ ∧ _))

/-- Records change under single names, and questions stay below the root of the store. All names
that are involved fit. -/
def Request.IsAdmissible (root : String) (p : KeyPrefix) : Request → Prop
  | put deployment _ => Key.IsName deployment ∧ FileStore.Fits root (p.statusKey deployment)
  | remove deployment => Key.IsName deployment ∧ FileStore.Fits root (p.statusKey deployment)
  | status deployment =>
    (Key.segments (p.statusKey deployment)).head? ≠ some ".." ∧
      FileStore.Fits root (p.statusKey deployment)
  | hasStatus deployment =>
    (Key.segments (p.statusKey deployment)).head? ≠ some ".." ∧
      FileStore.Fits root (p.statusKey deployment)

instance (root : String) (p : KeyPrefix) : DecidablePred (Request.IsAdmissible root p)
  | .put _ _ => inferInstanceAs (Decidable (_ ∧ _))
  | .remove _ => inferInstanceAs (Decidable (_ ∧ _))
  | .status _ => inferInstanceAs (Decidable (_ ∧ _))
  | .hasStatus _ => inferInstanceAs (Decidable (_ ∧ _))

namespace KeyPrefix

variable {deployment : String}

/-- A status key that does not begin with a double dot holds none. -/
theorem forall_isName_of_head?_ne (p : KeyPrefix)
    (inside : (Key.segments (p.statusKey deployment)).head? ≠ some "..") :
    ∀ segment ∈ Key.segments (p.statusKey deployment), Key.IsName segment := by
  rw [p.forall_isName_segments_statusKey_iff]
  by_contra beyond
  apply inside
  obtain ⟨levels, climb⟩ : ∃ levels, Key.climbs deployment - p.names.length = levels + 1 :=
    Nat.exists_eq_succ_of_ne_zero (by omega)
  rw [p.segments_statusKey_eq_ite, if_neg beyond, climb]
  rfl

/-- The records of single names lie at one depth. -/
theorem segments_statusKey_of_isName (p : KeyPrefix) (isName : Key.IsName deployment) :
    (∀ segment ∈ Key.segments (p.statusKey deployment), Key.IsName segment) ∧
      (Key.segments (p.statusKey deployment)).length = p.names.length + 2 := by
  obtain ⟨level, survives⟩ := Key.climbs_and_surviving_of_isName isName
  constructor
  · rw [p.forall_isName_segments_statusKey_iff, level]
    exact Nat.zero_le _
  · rw [segments_statusKey_of_level level, survives, List.length_append, List.length_append]
    rfl

end KeyPrefix

namespace Backing

variable {root key : String} {p : KeyPrefix} {w : World} {disk : Disk} {tree : Tree}
  {records : Memory} {depth : Nat}

/-- The tree at the root mirrors the records in memory. -/
def Related (root : String) (p : KeyPrefix) (records : Memory) (disk : Disk) : Prop :=
  ∃ tree, disk.Holds root tree ∧ records.MirroredBy (p.names.length + 2) tree

/-- A key that fits is read below the root as it is in memory. -/
theorem exists_get_run (holds : disk.Holds root tree) (mirrored : records.MirroredBy depth tree)
    (names : ∀ segment ∈ Key.segments key, Key.IsName segment) (fits : FileStore.Fits root key)
    (t : Trace) :
    ∃ after, (((FileStore.mk root).get key : Observed _).run
      { w with directory := disk.place }).run t =
        (.ok ((records.get? key).map (Record.mk key)), after) := by
  obtain ⟨clear, short, shortNames⟩ := fits
  have within : Place.checkPath ((Key.segments key).foldl Path.join root) = .ok () := by
    rw [Path.foldl_join_segments root names, Place.checkPath_eq_ok_iff]
    exact ⟨clear, short⟩
  have content : disk.place.readFile ((Key.segments key).foldl Path.join root) =
      tree.read (Key.segments key) := by
    rw [Place.readFile_foldl_join disk.place root (Key.segments_ne_nil key) names, within,
      holds.subtree_eq]
    rfl
  have accepted := FileStore.pathFor_eq_ok ⟨root⟩ names
  have run := FileStore.get_run_of_accepted accepted { w with directory := disk.place } t
  rw [content, mirrored.ofContent_read names shortNames, Key.ofSegments_segments] at run
  exact ⟨_, run⟩

/-- A change of a record is made alike. -/
theorem Related.next {request : Request} (related : Related root p records disk)
    (admissible : request.IsAdmissible root p) :
    Related root p ((memory w).next p records request) ((files root w).next p disk request) := by
  obtain ⟨tree, holds, mirrored⟩ := related
  cases request with
  | put deployment value =>
      obtain ⟨names, deep⟩ := p.segments_statusKey_of_isName admissible.1
      have written := holds.write (Key.segments_ne_nil _) names value
      have kept := mirrored.put names deep value
      rw [Path.foldl_join_segments root names] at written
      rw [Key.ofSegments_segments] at kept
      exact ⟨_, written, kept⟩
  | remove deployment =>
      obtain ⟨names, deep⟩ := p.segments_statusKey_of_isName admissible.1
      have removed := holds.remove (Key.segments_ne_nil _) names
      have kept := mirrored.erase (Key.segments_ne_nil _) names
      rw [Path.foldl_join_segments root names] at removed
      rw [Key.ofSegments_segments] at kept
      exact ⟨_, removed, kept⟩
  | status deployment => exact ⟨tree, holds, mirrored⟩
  | hasStatus deployment => exact ⟨tree, holds, mirrored⟩

/-- A question whose key stays below the root is answered alike. -/
theorem Related.answer {deployment : String} (related : Related root p records disk)
    (inside : (Key.segments (p.statusKey deployment)).head? ≠ some "..")
    (fits : FileStore.Fits root (p.statusKey deployment)) :
    (memory w).answer? p records (.status deployment) =
        (files root w).answer? p disk (.status deployment) ∧
      (memory w).answer? p records (.hasStatus deployment) =
        (files root w).answer? p disk (.hasStatus deployment) := by
  obtain ⟨tree, holds, mirrored⟩ := related
  have names := p.forall_isName_of_head?_ne inside
  have kept (t : Trace) : ∃ after, ((((memory w).store records).get (p.statusKey deployment)).run
      ((memory w).world records)).run t =
        (.ok ((records.get? (p.statusKey deployment)).map (Record.mk _)), after) := ⟨t, rfl⟩
  obtain ⟨looked, asked⟩ := answer?_of_read (memory w) p records kept
  obtain ⟨looked', asked'⟩ :=
    answer?_of_read (files root w) p disk (exists_get_run holds mirrored names fits)
  exact ⟨looked.trans looked'.symm, asked.trans asked'.symm⟩

/-- One request keeps memory and files alike, and is answered alike. -/
theorem simulates_memory_files (root : String) (p : KeyPrefix) (w : World) :
    Simulates p (Request.IsAdmissible root p) (Related root p) (memory w) (files root w) := by
  constructor
  case next =>
    intro records disk request related admissible
    exact related.next admissible
  case answer =>
    intro records disk request related admissible
    cases request with
    | put deployment value => rfl
    | remove deployment => rfl
    | status deployment => exact (related.answer admissible.1 admissible.2).1
    | hasStatus deployment => exact (related.answer admissible.1 admissible.2).2

/-- Started empty, records in memory and files below a directory give the same answers to every run
of admissible requests. -/
theorem answers_memory_eq_answers_files (p : KeyPrefix) (root : String) (w : World) (disk : Disk)
    (current : disk.tree.IsDirectoryAt disk.position.reverse)
    (empty : disk.place.subtree root = .ok (.directory [])) (requests : List Request)
    (admissible : ∀ request ∈ requests, request.IsAdmissible root p) :
    (memory w).answers p .empty requests = (files root w).answers p disk requests := by
  have related : Related root p .empty disk :=
    ⟨_, Disk.holds_of_subtree_eq current empty, .empty _⟩
  exact (simulates_memory_files root p w).answers_eq related requests admissible

/-- A current directory with an empty directory beside it. -/
def besideWork : Disk :=
  ⟨.directory [("work", .directory []), ("kv", .directory [])], ["work"]⟩

/-- A run that asks for a directory, for a record, for what is below a record, and for a record that
has been removed from a directory. -/
theorem answers_memory_eq_answers_besideWork :
    let w : World := ⟨besideWork.place, .ok "/work", []⟩
    let requests : List Request :=
      [.put "status" (Utf8.encode "deployed"), .status "", .status "status",
        .hasStatus "status/status", .remove "status", .hasStatus "x/../status", .status ".."]
    besideWork.tree.IsDirectoryAt besideWork.position.reverse ∧
      besideWork.place.subtree "../kv/" = .ok (.directory []) ∧
      (∀ request ∈ requests, request.IsAdmissible "../kv/" .standard) ∧
      (memory w).answers .standard .empty requests =
        (files "../kv/" w).answers .standard besideWork requests ∧
      (memory w).answers .standard .empty requests =
        [none, some (.status (.error (.notFound ""))), some (.status (.ok .deployed)),
          some (.hasStatus (.ok false)), none, some (.hasStatus (.ok false)),
          some (.status (.error (.notFound "..")))] := by
  intro w requests
  have current : besideWork.tree.IsDirectoryAt besideWork.position.reverse := ⟨[], rfl⟩
  have empty : besideWork.place.subtree "../kv/" = .ok (.directory []) := rfl
  have admissible : ∀ request ∈ requests, request.IsAdmissible "../kv/" .standard := by
    decide +kernel
  have same := answers_memory_eq_answers_files .standard "../kv/" w besideWork current empty
    requests admissible
  exact ⟨current, empty, admissible, same, by decide +kernel⟩

end Backing

end StatusLookup
