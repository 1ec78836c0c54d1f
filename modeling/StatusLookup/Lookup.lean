import StatusLookup.Key.Prefix
import StatusLookup.Log
import StatusLookup.Status
import StatusLookup.Store.Basic

/-!
# Looking up the status of a deployment

A lookup reads one record and decides. No record, or an empty one, means that there is no such
deployment; a record that names no status is an error of its own, and so is a read that fails.
Neither of these two says anything about whether the deployment exists.
-/

namespace StatusLookup

inductive LookupError where
  | store (e : StoreError)
  | notFound (deployment : String)
  | invalidStatus (e : InvalidStatus)
  deriving DecidableEq, Repr

namespace LookupError

def message : LookupError → String
  | store e => "deployment status read failed: " ++ e.message
  | notFound deployment => "deployment with id " ++ Text.quoted deployment ++ " not found"
  | invalidStatus e => e.message

/-- Whether the error says that there is no such deployment. -/
def isNotFound : LookupError → Bool
  | notFound _ => true
  | _ => false

/-- The deployment that was not found. -/
def deployment? : LookupError → Option String
  | notFound deployment => some deployment
  | _ => none

/-- The error of the store, if it was the store that failed. -/
def storeError? : LookupError → Option StoreError
  | store e => some e
  | _ => none

/-- The text of the record that names no status. -/
def invalidStatus? : LookupError → Option String
  | invalidStatus e => some e.raw
  | _ => none

end LookupError

/-- The deployments whose records lie below a prefix of a store. -/
structure Repository (m : Type → Type) where
  store : Store m
  keyPrefix : KeyPrefix

namespace Repository

variable {m : Type → Type} [Monad m] [Logger m]

def status (repository : Repository m) (deployment : String) : m (Except LookupError Status) := do
  let key := repository.keyPrefix.statusKey deployment
  logDebug ("Reading deployment status at " ++ key)
  match ← repository.store.get key with
  | .error e => return .error (.store e)
  | .ok none => return .error (.notFound deployment)
  | .ok (some record) =>
    if record.value.isEmpty then
      return .error (.notFound deployment)
    else
      match Status.parse (Utf8.decodeLossy record.value) true with
      | .ok s => return .ok s
      | .error e =>
        logWarn ("Deployment " ++ deployment ++ " has an unreadable status record at " ++ key
          ++ ": " ++ Text.quoted e.raw)
        return .error (.invalidStatus e)

/-- Whether a deployment has a status. Only a deployment that is not found has none; every other
error stays an error. -/
def hasStatus (repository : Repository m) (deployment : String) : m (Except LookupError Bool) := do
  match ← repository.status deployment with
  | .ok _ => return .ok true
  | .error e => return if e.isNotFound then .ok false else .error e

end Repository

end StatusLookup
