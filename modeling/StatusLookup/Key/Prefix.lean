import StatusLookup.Key.Basic
import StatusLookup.Text.Quoted

/-!
# Key prefixes

All status records of a store lie below one prefix, a non-empty list of names. A prefix is given
as text and must be relative, must not be empty once resolved, and must not lead above the root of
the store. It is kept resolved.
-/

namespace StatusLookup

/-- Why a text is no key prefix. The text is kept as given. -/
inductive KeyPrefixError where
  | empty
  | absolute (value : String)
  | climbs (value : String)
  deriving DecidableEq, Repr

def KeyPrefixError.message : KeyPrefixError → String
  | empty => "key prefix cannot be empty"
  | absolute value => "key prefix cannot be absolute: " ++ Text.quoted value
  | climbs value => "key prefix cannot climb above the store root: " ++ Text.quoted value

/-- The names below which the records of a store lie. -/
structure KeyPrefix where
  names : List String
  names_ne_nil : names ≠ []
  isName : ∀ name ∈ names, Key.IsName name
  deriving DecidableEq

namespace KeyPrefix

def text (p : KeyPrefix) : String :=
  Key.ofSegments p.names

instance : ToString KeyPrefix := ⟨text⟩

/-- The prefix in use where none is configured. -/
def standard : KeyPrefix :=
  ⟨["_deployments"], by decide, by decide⟩

instance : Inhabited KeyPrefix := ⟨standard⟩

/-- Reads a prefix. A relative text resolves to names alone unless it climbs. -/
def ofString (value : String) : Except KeyPrefixError KeyPrefix :=
  if Key.isRooted value then .error (.absolute value)
  else
    let names := Key.resolve false (Key.segments value)
    if ne_nil : names = [] then .error .empty
    else if isName : ∀ name ∈ names, Key.IsName name then .ok ⟨names, ne_nil, isName⟩
    else .error (.climbs value)

/-- The key of a deployment's status record. -/
def statusKey (p : KeyPrefix) (deployment : String) : String :=
  Key.join [p.text, deployment, "status"]

end KeyPrefix

end StatusLookup
