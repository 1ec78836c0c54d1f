import StatusLookup.Json.Reader
import StatusLookup.Status

/-!
# Statuses in JSON

A status is a string with its exact name. A list of statuses is an array; its items are read in
order, and the first that is no status decides the error.
-/

namespace StatusLookup.Status

def toJson (s : Status) : Json :=
  .string s.name

def ofJson : Json → Except JsonError Status
  | .string text =>
    match parse text false with
    | .ok s => .ok s
    | .error e => .error (.mismatch (.invalidStatus e))
  | value => .error (value.refuse .text)

def listToJson (statuses : List Status) : Json :=
  .array (statuses.map toJson)

def listOfJson : Json → Except JsonError (List Status)
  | .array items => items.mapM ofJson
  | value => .error (value.refuse .sequence)

end StatusLookup.Status
