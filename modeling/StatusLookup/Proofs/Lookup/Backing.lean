import StatusLookup.Proofs.FileSystem.Disk
import StatusLookup.Proofs.Lookup.Run
import StatusLookup.Store.Files
import StatusLookup.Store.Memory
import StatusLookup.World

/-!
# Repositories whose records change

A run over a repository is a list of requests. Some put or remove the record of a deployment, the
others are questions, and what lies behind the repository decides how the first are carried out and
where the second are looked up. Such a backing is an interface alone: its states are not shared, and
two backings are compared by the answers that they give.

It is enough to relate their states. When every request that is allowed keeps the relation, and is
answered alike in related states, then no run of such requests tells the backings apart.
-/

namespace StatusLookup

inductive Request where
  | put (deployment : String) (value : Bytes)
  | remove (deployment : String)
  | status (deployment : String)
  | hasStatus (deployment : String)
  deriving DecidableEq, Repr

inductive Answer where
  | status (outcome : Except LookupError Status)
  | hasStatus (outcome : Except LookupError Bool)
  deriving DecidableEq, Repr

/-- Records under keys, behind a repository. -/
structure Backing (σ : Type) where
  put : σ → String → Bytes → σ
  remove : σ → String → σ
  /-- The store that reads the records. -/
  store : σ → Store Observed
  /-- The surroundings in which they are read. -/
  world : σ → World

namespace Backing

variable {σ τ : Type}

/-- The state after a request. A question leaves it as it is. -/
def next (backing : Backing σ) (p : KeyPrefix) (state : σ) : Request → σ
  | .put deployment value => backing.put state (p.statusKey deployment) value
  | .remove deployment => backing.remove state (p.statusKey deployment)
  | .status _ => state
  | .hasStatus _ => state

/-- The answer to a request, if it is a question. -/
def answer? (backing : Backing σ) (p : KeyPrefix) (state : σ) : Request → Option Answer
  | .put _ _ => none
  | .remove _ => none
  | .status deployment =>
    some (.status (((Repository.mk (backing.store state) p).status deployment).result
      (backing.world state)))
  | .hasStatus deployment =>
    some (.hasStatus (((Repository.mk (backing.store state) p).hasStatus deployment).result
      (backing.world state)))

/-- The answers to the requests of a run, in their order. -/
def answers (backing : Backing σ) (p : KeyPrefix) : σ → List Request → List (Option Answer)
  | _, [] => []
  | state, request :: requests =>
    backing.answer? p state request :: backing.answers p (backing.next p state request) requests

def memory (w : World) : Backing Memory where
  put := Memory.put
  remove := Memory.erase
  store records := records.toStore
  world _ := w

def files (root : String) (w : World) : Backing Disk where
  put disk key value := disk.write (Path.join root key) value
  remove disk key := disk.remove (Path.join root key)
  store _ := FileStore.toStore ⟨root⟩
  world disk := { w with directory := disk.place }

/-- A relation between the states of two backings that no allowed request breaks or betrays. -/
structure Simulates (p : KeyPrefix) (allowed : Request → Prop) (relation : σ → τ → Prop)
    (backing : Backing σ) (backing' : Backing τ) : Prop where
  next : ∀ state state' request, relation state state' → allowed request →
    relation (backing.next p state request) (backing'.next p state' request)
  answer : ∀ state state' request, relation state state' → allowed request →
    backing.answer? p state request = backing'.answer? p state' request

variable {p : KeyPrefix} {allowed : Request → Prop} {relation : σ → τ → Prop}
  {backing : Backing σ} {backing' : Backing τ}

/-- From related states, runs of allowed requests are answered alike. -/
theorem Simulates.answers_eq (simulates : Simulates p allowed relation backing backing')
    {state : σ} {state' : τ} (related : relation state state') (requests : List Request)
    (legal : ∀ request ∈ requests, allowed request) :
    backing.answers p state requests = backing'.answers p state' requests := by
  induction requests generalizing state state' with
  | nil => rfl
  | cons request requests ih =>
      obtain ⟨first, others⟩ := List.forall_mem_cons.mp legal
      have kept := simulates.next state state' request related first
      rw [answers, answers, simulates.answer state state' request related first, ih kept others]

/-- What is read at the key of a deployment decides the answers to questions about it. -/
theorem answer?_of_read (backing : Backing σ) (p : KeyPrefix) (state : σ) {deployment : String}
    {answer : Except StoreError (Option Record)}
    (read : ((backing.store state).get (p.statusKey deployment)).Yields (backing.world state)
      answer) :
    let outcome := Repository.ofRead deployment (answer.map (·.map Record.value))
    backing.answer? p state (.status deployment) = some (.status outcome) ∧
      backing.answer? p state (.hasStatus deployment) =
        some (.hasStatus (Repository.presence outcome)) := by
  have looked := Repository.status_yields ⟨backing.store state, p⟩ read
  constructor
  · rw [answer?, looked.result_eq]
  · rw [answer?, (Repository.hasStatus_yields _ looked).result_eq]

end Backing

end StatusLookup
