import StatusLookup.Lookup
import StatusLookup.Proofs.Observed
import StatusLookup.Proofs.Store.Run

/-!
# Runs of a lookup

A lookup in a world comes down to one read. What it answers is a function of the answer to that
read, and what it leaves in the trace is the trace of that read between two log lines, of which the
second one is only written for a record that names no status.
-/

namespace StatusLookup

namespace Repository

/-- What a lookup makes of the value of a record. -/
def ofValue (deployment : String) (value : Bytes) : Except LookupError Status :=
  if value.isEmpty then .error (.notFound deployment)
  else
    match Status.parse (Utf8.decodeLossy value) true with
    | .ok s => .ok s
    | .error e => .error (.invalidStatus e)

/-- What a lookup makes of the answer to its read. -/
def ofRead (deployment : String) : Except StoreError (Option Bytes) → Except LookupError Status
  | .error e => .error (.store e)
  | .ok none => .error (.notFound deployment)
  | .ok (some value) => ofValue deployment value

/-- The outcome of a lookup as a question after the presence of a status. -/
def presence : Except LookupError Status → Except LookupError Bool
  | .ok _ => .ok true
  | .error e => if e.isNotFound then .ok false else .error e

def readLine (key : String) : LogLine :=
  ⟨.debug, "Reading deployment status at " ++ key⟩

/-- The lines about a record that names no status. -/
def warnings (deployment key : String) : Except LookupError Status → List LogLine
  | .error (.invalidStatus e) =>
    [⟨.warn, "Deployment " ++ deployment ++ " has an unreadable status record at " ++ key
      ++ ": " ++ Text.quoted e.raw⟩]
  | _ => []

/-- A lookup is one read, and its outcome is decided by the answer. -/
theorem status_run (repository : Repository Observed) (deployment : String) {w : World}
    {t after : Trace} {answer : Except StoreError (Option Record)}
    (read : ((repository.store.get (repository.keyPrefix.statusKey deployment)).run w).run
      (t.addLine (readLine (repository.keyPrefix.statusKey deployment))) = (answer, after)) :
    let outcome := ofRead deployment (answer.map (·.map Record.value))
    ((repository.status deployment).run w).run t =
      (outcome, after.addLines
        (warnings deployment (repository.keyPrefix.statusKey deployment) outcome)) := by
  have announce : StateT.run (ReaderT.run (logDebug ("Reading deployment status at " ++
      repository.keyPrefix.statusKey deployment) : Observed Unit) w) t =
        ((), t.addLine (readLine (repository.keyPrefix.statusKey deployment))) := rfl
  dsimp only
  rw [status, Observed.run_bind_of_run announce, Observed.run_bind_of_run read]
  have silent (outcome : Except LookupError Status) : (outcome, after) =
      (outcome, after.addLines []) := by rw [Trace.addLines_nil]
  cases answer with
  | error e => exact silent _
  | ok found =>
      cases found with
      | none => exact silent _
      | some record =>
          simp only [Except.map, Option.map, ofRead, ofValue]
          by_cases empty : record.value.isEmpty
          · rw [if_pos empty, if_pos empty]
            exact silent _
          · rw [if_neg empty, if_neg empty]
            cases Status.parse (Utf8.decodeLossy record.value) true with
            | ok s => exact silent _
            | error e => rfl

/-- A lookup over a store whose reads are noted, from an empty trace. -/
theorem observe_status (store : Store Observed) (p : KeyPrefix) (deployment : String) {w : World}
    {after : Trace} {answer : Except StoreError (Option Record)}
    (read : ((store.get (p.statusKey deployment)).run w).run
      ⟨[p.statusKey deployment], [], [readLine (p.statusKey deployment)]⟩ = (answer, after)) :
    let outcome := ofRead deployment (answer.map (·.map Record.value))
    ((Repository.mk store.recorded p).status deployment).observe w =
      (outcome, after.addLines (warnings deployment (p.statusKey deployment) outcome)) :=
  status_run (Repository.mk store.recorded p) deployment read

/-- Asking whether a deployment has a status does what looking the status up does. -/
theorem hasStatus_run {repository : Repository Observed} {deployment : String} {w : World}
    {t after : Trace} {outcome : Except LookupError Status}
    (lookup : ((repository.status deployment).run w).run t = (outcome, after)) :
    ((repository.hasStatus deployment).run w).run t = (presence outcome, after) := by
  rw [hasStatus, Observed.run_bind_of_run lookup]
  cases outcome with
  | ok s => rfl
  | error e => rfl

variable (repository : Repository Observed) {deployment : String} {w : World}

/-- Where a read answers the same whatever has been done before, so does a lookup. -/
theorem status_yields {answer : Except StoreError (Option Record)}
    (read : (repository.store.get (repository.keyPrefix.statusKey deployment)).Yields w answer) :
    (repository.status deployment).Yields w
      (ofRead deployment (answer.map (·.map Record.value))) := by
  intro t
  obtain ⟨after, run⟩ := read (t.addLine (readLine (repository.keyPrefix.statusKey deployment)))
  exact ⟨_, status_run repository deployment run⟩

/-- And so does the question after the presence of a status. -/
theorem hasStatus_yields {outcome : Except LookupError Status}
    (lookup : (repository.status deployment).Yields w outcome) :
    (repository.hasStatus deployment).Yields w (presence outcome) := by
  intro t
  obtain ⟨after, run⟩ := lookup t
  exact ⟨after, hasStatus_run run⟩

end Repository

end StatusLookup
