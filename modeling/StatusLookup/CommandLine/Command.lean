import StatusLookup.Json.Writer
import StatusLookup.Status

/-!
# Commands

What a user can ask for: the status of a deployment, whether it has one, the canonical form of a
status, and all statuses. Only the first two need a configuration.
-/

namespace StatusLookup.CommandLine

/-- What holds for every command. -/
structure Options where
  /-- The configuration file, if it is not to be looked for. -/
  config : Option String
  /-- Whether log lines about the course of a lookup are shown. -/
  verbose : Bool
  deriving DecidableEq, Repr

inductive Command where
  | status (deployment : String) (json : Bool)
  | hasStatus (deployment : String)
  | parse (text : String) (strict : Bool)
  | statuses
  deriving DecidableEq, Repr

/-- The status of a deployment, as one line of JSON. -/
def report (deployment : String) (s : Status) : String :=
  "\x7b\"deployment_id\":" ++ Json.writeString deployment ++ ",\"status\":" ++
    Json.writeString s.name ++ "\x7d"

end StatusLookup.CommandLine
