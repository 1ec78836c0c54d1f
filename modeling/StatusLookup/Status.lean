import StatusLookup.Text.Quoted
import StatusLookup.Text.Uppercase

/-!
# The lifecycle statuses of a deployment

Seven statuses in lifecycle order, each with one canonical name in capitals. A status is read
from text either strictly or without regard to case; what names no status is refused together
with the text as it was given.
-/

namespace StatusLookup

/-- The status of a deployment, in lifecycle order. -/
inductive Status where
  | initial
  | deploymentInProgress
  | deployed
  | undeploymentInProgress
  | undeployed
  | deploymentFailed
  | undeploymentFailed
  deriving DecidableEq, Repr

/-- A text that names no status, as it was given. -/
structure InvalidStatus where
  raw : String
  deriving DecidableEq, Repr

def InvalidStatus.message (e : InvalidStatus) : String :=
  "invalid deployment status " ++ Text.quoted e.raw

namespace Status

def name : Status → String
  | initial => "INITIAL"
  | deploymentInProgress => "DEPLOYMENT_IN_PROGRESS"
  | deployed => "DEPLOYED"
  | undeploymentInProgress => "UNDEPLOYMENT_IN_PROGRESS"
  | undeployed => "UNDEPLOYED"
  | deploymentFailed => "DEPLOYMENT_FAILED"
  | undeploymentFailed => "UNDEPLOYMENT_FAILED"

instance : ToString Status := ⟨name⟩

/-- All statuses in lifecycle order. -/
def all : List Status :=
  [initial, deploymentInProgress, deployed, undeploymentInProgress, undeployed,
    deploymentFailed, undeploymentFailed]

theorem mem_all (s : Status) : s ∈ all := by
  cases s <;> simp [all]

/-- The place in the lifecycle, by which statuses are ordered. -/
def rank : Status → Nat
  | initial => 0
  | deploymentInProgress => 1
  | deployed => 2
  | undeploymentInProgress => 3
  | undeployed => 4
  | deploymentFailed => 5
  | undeploymentFailed => 6

instance : Ord Status := ⟨fun a b => compare a.rank b.rank⟩
instance : LE Status := ⟨fun a b => a.rank ≤ b.rank⟩
instance : LT Status := ⟨fun a b => a.rank < b.rank⟩

instance (a b : Status) : Decidable (a ≤ b) := inferInstanceAs (Decidable (a.rank ≤ b.rank))
instance (a b : Status) : Decidable (a < b) := inferInstanceAs (Decidable (a.rank < b.rank))

theorem name_injective {a b : Status} (h : a.name = b.name) : a = b := by
  revert h
  cases a <;> cases b <;> decide

/-- Every status with the text it is read from, in lifecycle order. -/
def table : List (Status × String) :=
  [(initial, "INITIAL"),
    (deploymentInProgress, "DEPLOYMENT_IN_PROGRESS"),
    (deployed, "DEPLOYED"),
    (undeploymentInProgress, "UNDEPLOYMENT_IN_PROGRESS"),
    (undeployed, "UNDEPLOYED"),
    (deploymentFailed, "DEPLOYMENT_FAILED"),
    (undeploymentFailed, "UNDEPLOYMENT_FAILED")]

/-- A status is read from its name and from nothing else. -/
theorem mem_table_iff {s : Status} {text : String} : (s, text) ∈ table ↔ s.name = text := by
  constructor
  · intro listed
    have all : ∀ entry ∈ table, entry.1.name = entry.2 := by decide
    exact all _ listed
  · rintro rfl
    cases s <;> decide

/-- The status with exactly this name. The table is scanned from front to back. -/
def ofName? (text : String) : Option Status :=
  (table.find? fun entry => entry.2 == text).map Prod.fst

@[simp] theorem ofName?_name (s : Status) : ofName? s.name = some s := by
  cases s <;> decide

theorem ofName?_eq_some_iff {text : String} {s : Status} :
    ofName? text = some s ↔ s.name = text := by
  constructor
  · intro h
    obtain ⟨⟨s', text'⟩, found, rfl⟩ := Option.map_eq_some_iff.mp h
    obtain rfl : text' = text := by simpa using List.find?_some found
    exact mem_table_iff.mp (List.mem_of_find?_eq_some found)
  · rintro rfl
    simp

/-- Reads a status name. With `ignoreCase` the text is uppercased first; the refusal carries the
text as given in both cases. -/
def parse (text : String) (ignoreCase : Bool) : Except InvalidStatus Status :=
  match ofName? (if ignoreCase then Text.uppercase text else text) with
  | some s => .ok s
  | none => .error ⟨text⟩

/-- Reads a text that must be a name exactly. -/
def ofString (text : String) : Except InvalidStatus Status :=
  parse text false

end Status

end StatusLookup
