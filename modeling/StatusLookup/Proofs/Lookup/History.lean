import StatusLookup.Proofs.Lookup.Contract
import StatusLookup.Proofs.Observed
import StatusLookup.Proofs.Store.History
import StatusLookup.Store.Shared

/-!
# Lookups in a memory store that changes

A run over a repository whose store is shared puts and removes values under keys of any form, reads
keys, and asks for deployments. What an operation gives back is a matter of the writes before it,
and of those at one key only: the key that is read. Whether other keys clean to the same key makes
no difference, since a memory store compares keys as texts. Deployments with one status key share a
record, and it is only the name of the deployment in a refusal that tells them apart.

A step adds one reply and the reads that it makes. From this the store that a run leaves follows by
induction over the run: it is the store that its writes leave.
-/

namespace StatusLookup

/-- A step of a run over a repository whose memory store is shared. -/
inductive Operation where
  | put (key : String) (value : Bytes)
  | remove (key : String)
  | get (key : String)
  | status (deployment : String)
  | hasStatus (deployment : String)
  deriving DecidableEq, Repr

inductive Reply where
  | done
  | removed (value : Option Bytes)
  | record (outcome : Except StoreError (Option Record))
  | status (outcome : Except LookupError Status)
  | hasStatus (outcome : Except LookupError Bool)
  deriving DecidableEq, Repr

namespace Operation

def perform (p : KeyPrefix) : Operation → Shared Reply
  | put key value => do
    Shared.put key value
    return .done
  | remove key => return .removed (← Shared.remove key)
  | get key => return .record (← Shared.store.get key)
  | status deployment => return .status (← (Repository.mk Shared.store p).status deployment)
  | hasStatus deployment =>
    return .hasStatus (← (Repository.mk Shared.store p).hasStatus deployment)

/-- What an operation writes, if it is no question. -/
def write? : Operation → Option Memory.Write
  | put key value => some (key, some value)
  | remove key => some (key, none)
  | get _ => none
  | status _ => none
  | hasStatus _ => none

def reads (p : KeyPrefix) : Operation → List String
  | put _ _ => []
  | remove _ => []
  | get key => [key]
  | status deployment => [p.statusKey deployment]
  | hasStatus deployment => [p.statusKey deployment]

def WritesAt (op : Operation) (key : String) : Prop :=
  ∃ value, op.write? = some (key, value)

/-- The reply is the one that the values at the keys call for. -/
inductive IsAnswered (p : KeyPrefix) (held : String → Option Bytes) : Operation → Reply → Prop where
  | put (key : String) (value : Bytes) : IsAnswered p held (.put key value) .done
  | remove (key : String) : IsAnswered p held (.remove key) (.removed (held key))
  | get (key : String) :
      IsAnswered p held (.get key) (.record (.ok ((held key).map (Record.mk key))))
  | status {deployment : String} {outcome : Except LookupError Status} :
      Repository.IsDecidedBy deployment (.ok (held (p.statusKey deployment))) outcome →
        IsAnswered p held (.status deployment) (.status outcome)
  | hasStatus {deployment : String} {outcome : Except LookupError Status} :
      Repository.IsDecidedBy deployment (.ok (held (p.statusKey deployment))) outcome →
        IsAnswered p held (.hasStatus deployment) (.hasStatus (Repository.presence outcome))

/-- The reply to an operation, from the values at the keys. -/
def reply (p : KeyPrefix) (held : String → Option Bytes) : Operation → Reply
  | put _ _ => .done
  | remove key => .removed (held key)
  | get key => .record (.ok ((held key).map (Record.mk key)))
  | status deployment =>
    .status (Repository.ofRead deployment (.ok (held (p.statusKey deployment))))
  | hasStatus deployment =>
    .hasStatus
      (Repository.presence (Repository.ofRead deployment (.ok (held (p.statusKey deployment)))))

def next (op : Operation) (records : Memory) : Memory :=
  op.write?.elim records records.write

end Operation

namespace Shared

variable {p : KeyPrefix} {w : World} {records : Memory}

theorem log_run (line : LogLine) (records : Memory) :
    (Logger.log line : Shared Unit).run records =
      (fun done => (done, records)) <$> (Logger.log line : Observed Unit) := rfl

theorem store_get_run (key : String) (records : Memory) :
    (store.get key).run records =
      (fun answer => (answer, records)) <$> records.toStore.recorded.get key := rfl

/-- A lookup finds the store as it is, and leaves it so. -/
theorem status_run_eq (p : KeyPrefix) (deployment : String) (records : Memory) :
    ((Repository.mk store p).status deployment).run records =
      (fun outcome => (outcome, records)) <$>
        (Repository.mk records.toStore.recorded p).status deployment := by
  simp only [Repository.status, logDebug, logWarn, StateT.run_bind, log_run, store_get_run,
    map_bind, bind_map_left]
  congr 1
  funext _
  congr 1
  funext answer
  cases answer with
  | error e => rfl
  | ok found =>
      cases found with
      | none => rfl
      | some record =>
          simp only
          split
          · rfl
          · cases Status.parse (Utf8.decodeLossy record.value) true <;> rfl

theorem hasStatus_run_eq (p : KeyPrefix) (deployment : String) (records : Memory) :
    ((Repository.mk store p).hasStatus deployment).run records =
      (fun outcome => (outcome, records)) <$>
        (Repository.mk records.toStore.recorded p).hasStatus deployment := by
  simp only [Repository.hasStatus, StateT.run_bind, status_run_eq, map_bind, bind_map_left]
  congr 1
  funext outcome
  cases outcome <;> rfl

theorem recorded_get_run (records : Memory) (key : String) (w : World) (t : Trace) :
    ((records.toStore.recorded.get key : Observed _).run w).run t =
      (.ok ((records.get? key).map (Record.mk key)), t.addRead key) := rfl

/-- A lookup reads the key of the record, and what the store has there decides. -/
theorem exists_lookup_run (p : KeyPrefix) (deployment : String) (records : Memory) (w : World)
    (t : Trace) :
    let outcome := Repository.ofRead deployment (.ok (records.get? (p.statusKey deployment)))
    ∃ lines, (((Repository.mk records.toStore.recorded p).status deployment).run w).run t =
      (outcome, ⟨t.reads ++ [p.statusKey deployment], t.accesses, t.lines ++ lines⟩) := by
  have values : (Except.ok ((records.get? (p.statusKey deployment)).map
      (Record.mk (p.statusKey deployment))) : Except StoreError _).map (·.map Record.value) =
        .ok (records.get? (p.statusKey deployment)) := by
    simp [Except.map, Function.comp_def]
  have run := Repository.status_run (Repository.mk records.toStore.recorded p) deployment
    (recorded_get_run records (p.statusKey deployment) w
      (t.addLine (Repository.readLine (p.statusKey deployment))))
  rw [values] at run
  refine ⟨Repository.readLine (p.statusKey deployment) ::
    Repository.warnings deployment (p.statusKey deployment) (Repository.ofRead deployment
      (.ok (records.get? (p.statusKey deployment)))), run.trans ?_⟩
  simp only [Trace.addLines, Trace.addRead, Trace.addLine, List.append_assoc,
    List.singleton_append]

end Shared

namespace Operation

variable {p : KeyPrefix} {w : World}

theorem isAnswered_reply (p : KeyPrefix) (held : String → Option Bytes) (op : Operation) :
    op.IsAnswered p held (op.reply p held) := by
  cases op with
  | put key value => exact .put key value
  | remove key => exact .remove key
  | get key => exact .get key
  | status deployment => exact .status (Repository.isDecidedBy_ofRead deployment _)
  | hasStatus deployment => exact .hasStatus (Repository.isDecidedBy_ofRead deployment _)

/-- What one operation does: its reply comes from the store as it is, and it writes at one key or
leaves the store alone. -/
theorem perform_run (p : KeyPrefix) (op : Operation) (records : Memory) (w : World) (t : Trace) :
    ∃ lines, (((op.perform p).run records).run w).run t =
      ((op.reply p records.get?, op.next records),
        ⟨t.reads ++ op.reads p, t.accesses, t.lines ++ lines⟩) := by
  cases op with
  | put key value =>
      refine ⟨[], ?_⟩
      rw [List.append_nil, reads, List.append_nil]
      rfl
  | remove key =>
      refine ⟨[], ?_⟩
      rw [List.append_nil, reads, List.append_nil]
      rfl
  | get key =>
      refine ⟨[], ?_⟩
      rw [List.append_nil]
      rfl
  | status deployment =>
      obtain ⟨lines, run⟩ := Shared.exists_lookup_run p deployment records w t
      refine ⟨lines, ?_⟩
      rw [perform, StateT.run_bind, Shared.status_run_eq, bind_map_left]
      exact Observed.run_bind_of_run run
  | hasStatus deployment =>
      obtain ⟨lines, run⟩ := Shared.exists_lookup_run p deployment records w t
      refine ⟨lines, ?_⟩
      rw [perform, StateT.run_bind, Shared.hasStatus_run_eq, bind_map_left]
      exact Observed.run_bind_of_run (Repository.hasStatus_run run)

end Operation

/-- A run over a repository whose store is empty at first: the replies, the store that is left, and
the trace. -/
def Shared.observeRun (p : KeyPrefix) (w : World) (history : List Operation) :
    (List Reply × Memory) × Trace :=
  ((history.mapM (Operation.perform p)).run .empty).observe w

namespace Shared

variable {p : KeyPrefix} {w : World}

/-- One more operation adds its reply and its reads. -/
theorem exists_observeRun_concat (p : KeyPrefix) (w : World) (history : List Operation)
    (op : Operation) :
    ∃ lines, observeRun p w (history ++ [op]) =
      (((observeRun p w history).1.1 ++ [op.reply p (observeRun p w history).1.2.get?],
        op.next (observeRun p w history).1.2),
        ⟨(observeRun p w history).2.reads ++ op.reads p, (observeRun p w history).2.accesses,
          (observeRun p w history).2.lines ++ lines⟩) := by
  obtain ⟨lines, run⟩ :=
    op.perform_run p (observeRun p w history).1.2 w (observeRun p w history).2
  refine ⟨lines, ?_⟩
  have first : (((history.mapM (Operation.perform p)).run .empty).run w).run Trace.empty =
      (((observeRun p w history).1.1, (observeRun p w history).1.2),
        (observeRun p w history).2) := rfl
  rw [observeRun, Observed.observe_eq_run, List.mapM_append, StateT.run_bind,
    Observed.run_bind_of_run first]
  simp only [List.mapM_cons, List.mapM_nil, bind_assoc, pure_bind]
  rw [StateT.run_bind, Observed.run_bind_of_run run]
  rfl

def writes (history : List Operation) : List Memory.Write :=
  history.filterMap Operation.write?

def held (history : List Operation) : String → Option Bytes :=
  Memory.held (writes history)

/-- A run leaves the store that its writes leave. -/
theorem store_observeRun (p : KeyPrefix) (w : World) (history : List Operation) :
    (observeRun p w history).1.2 = Memory.ofWrites (writes history) := by
  induction history using List.reverseRecOn with
  | nil => rfl
  | append_singleton history op ih =>
      obtain ⟨lines, run⟩ := exists_observeRun_concat p w history op
      rw [run, writes, List.filterMap_append]
      show op.next _ = _
      rw [ih, Operation.next, writes]
      cases found : op.write? with
      | none => simp [found]
      | some latest => simp [found, Memory.ofWrites]

theorem get?_observeRun (p : KeyPrefix) (w : World) (history : List Operation) :
    (observeRun p w history).1.2.get? = held history := by
  funext key
  rw [store_observeRun, Memory.get?_ofWrites, held]

/-- A value is left at a key by the latest put there. -/
theorem held_eq_some_iff {history : List Operation} {key : String} {value : Bytes} :
    held history key = some value ↔
      ∃ before later, history = before ++ .put key value :: later ∧
        ∀ op ∈ later, ¬ op.WritesAt key := by
  rw [held, Memory.held_eq_some_iff, writes]
  constructor
  · rintro ⟨before, later, split, apart⟩
    obtain ⟨front, back, rfl, -, split⟩ := List.filterMap_eq_append_iff.mp split
    obtain ⟨silent, op, rest, rfl, -, written, rfl⟩ := List.filterMap_eq_cons_iff.mp split
    obtain rfl : op = .put key value := by
      cases op <;> simp_all [Operation.write?]
    refine ⟨front ++ silent, rest, by rw [List.append_assoc], ?_⟩
    rintro op member ⟨value', writes⟩
    exact apart _ (List.mem_filterMap.mpr ⟨op, member, writes⟩) rfl
  · rintro ⟨before, later, rfl, apart⟩
    refine ⟨before.filterMap Operation.write?, later.filterMap Operation.write?, ?_, ?_⟩
    · rw [List.filterMap_append]
      rfl
    · rintro ⟨other, value'⟩ member rfl
      obtain ⟨op, inside, writes⟩ := List.mem_filterMap.mp member
      exact apart op inside ⟨value', writes⟩

/-- An operation that does not write at a key can be left out of a run. -/
theorem held_append_cons {op : Operation} {key : String} (apart : ¬ op.WritesAt key)
    (before later : List Operation) :
    held (before ++ op :: later) key = held (before ++ later) key := by
  rw [held, held, writes, writes, List.filterMap_append, List.filterMap_append]
  cases found : op.write? with
  | none => rw [List.filterMap_cons_none found]
  | some other =>
      rw [List.filterMap_cons_some found, Memory.held_append_cons_of_ne]
      rintro rfl
      exact apart ⟨other.2, found⟩

/-- What an operation gives back when it comes after a run. -/
def replyAfter (p : KeyPrefix) (w : World) (history : List Operation) (op : Operation) : Reply :=
  (((op.perform p).run (observeRun p w history).1.2).result w).1

theorem replyAfter_eq (p : KeyPrefix) (w : World) (history : List Operation) (op : Operation) :
    replyAfter p w history op = op.reply p (held history) := by
  obtain ⟨lines, run⟩ := op.perform_run p (observeRun p w history).1.2 w Trace.empty
  rw [replyAfter, Observed.result, Observed.observe_eq_run, run, get?_observeRun]

end Shared

namespace LookupError

/-- The same error about another deployment. -/
def about (deployment : String) : LookupError → LookupError
  | notFound _ => notFound deployment
  | e => e

end LookupError

namespace Repository

variable (i j : String) (answer : Except StoreError (Option Bytes))

/-- The same answer makes the same outcome, up to the name of the deployment that is not found. -/
theorem ofRead_eq_mapError_about :
    ofRead j answer = (ofRead i answer).mapError (LookupError.about j) := by
  cases answer with
  | error e => rfl
  | ok found =>
      cases found with
      | none => rfl
      | some value =>
          rw [ofRead, ofRead, ofValue, ofValue]
          split
          · rfl
          · cases Status.parse (Utf8.decodeLossy value) true <;> rfl

theorem presence_mapError_about (outcome : Except LookupError Status) :
    presence (outcome.mapError (LookupError.about j)) = presence outcome := by
  cases outcome with
  | ok s => rfl
  | error e => cases e <;> rfl

end Repository

namespace Shared

/-- Runs over a memory store. Each operation is answered from the latest writes before it, at the
key that it reads once; only writes change the store, whose size is the number of keys that are left
with a value. So deployments with one status key are told apart by name alone, and a write at
another key can be left out of the run. -/
theorem replies_from_latest_writes (p : KeyPrefix) (w : World) (history : List Operation) :
    (∀ key value, held history key = some value ↔
      ∃ before later, history = before ++ .put key value :: later ∧
        ∀ op ∈ later, ¬ op.WritesAt key) ∧
    (∀ op, (observeRun p w (history ++ [op])).1.1 =
        (observeRun p w history).1.1 ++ [replyAfter p w history op] ∧
      op.IsAnswered p (held history) (replyAfter p w history op) ∧
      (observeRun p w (history ++ [op])).2.reads =
        (observeRun p w history).2.reads ++ op.reads p) ∧
    (∀ op, op.write? = none →
      (observeRun p w (history ++ [op])).1.2 = (observeRun p w history).1.2) ∧
    (∃ keys : Finset String, (∀ key, key ∈ keys ↔ (held history key).isSome) ∧
      (observeRun p w history).1.2.size = keys.card ∧
      ((observeRun p w history).1.2.isEmpty = true ↔ keys.card = 0)) ∧
    (∀ i j, p.statusKey i = p.statusKey j →
      (∀ outcome, replyAfter p w history (.status i) = .status outcome →
        replyAfter p w history (.status j) = .status (outcome.mapError (LookupError.about j))) ∧
      replyAfter p w history (.hasStatus j) = replyAfter p w history (.hasStatus i)) ∧
    (∀ deployment before op later, history = before ++ op :: later →
      ¬ op.WritesAt (p.statusKey deployment) →
        replyAfter p w history (.status deployment) =
          replyAfter p w (before ++ later) (.status deployment) ∧
        replyAfter p w history (.hasStatus deployment) =
          replyAfter p w (before ++ later) (.hasStatus deployment)) := by
  refine ⟨fun key value => held_eq_some_iff, ?_, ?_, ?_, ?_, ?_⟩
  · intro op
    obtain ⟨lines, run⟩ := exists_observeRun_concat p w history op
    rw [run, get?_observeRun, replyAfter_eq]
    exact ⟨rfl, op.isAnswered_reply p (held history), rfl⟩
  · intro op question
    obtain ⟨lines, run⟩ := exists_observeRun_concat p w history op
    rw [run, Operation.next, question]
    rfl
  · refine ⟨Memory.heldKeys (writes history), fun key => Memory.mem_heldKeys_iff, ?_, ?_⟩
    · rw [store_observeRun, Memory.size_ofWrites]
    · rw [Memory.isEmpty_eq_true_iff, store_observeRun, Memory.size_ofWrites]
  · intro i j same
    simp only [replyAfter_eq, Operation.reply, ← same]
    constructor
    · rintro outcome reached
      rw [Repository.ofRead_eq_mapError_about i j, Reply.status.inj reached]
    · rw [Repository.ofRead_eq_mapError_about i j, Repository.presence_mapError_about]
  · rintro deployment before op later rfl apart
    simp only [replyAfter_eq, Operation.reply, held_append_cons apart, and_self]

/-- A key that is not clean is a key of its own, while ids are cleaned. -/
example :
    (observeRun .standard ⟨⟨.directory [], []⟩, .ok "/", []⟩
      [.put "_deployments/a/status" (Utf8.encode "deployed"), .put "_deployments//a/status" [],
        .status "./a", .remove "_deployments/a/status", .hasStatus "x/../a"]).1.1 =
      [.done, .done, .status (.ok .deployed), .removed (some (Utf8.encode "deployed")),
        .hasStatus (.ok false)] := by
  decide +kernel

end Shared

end StatusLookup
