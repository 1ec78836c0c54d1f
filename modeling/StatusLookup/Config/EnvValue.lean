import StatusLookup.Data.Content
import StatusLookup.Failure
import StatusLookup.Host
import StatusLookup.Json.Reader

/-!
# Values that may come from the environment

A configuration value is a text, or it names an environment variable and perhaps a text that is
used when the variable is not set. It is written as a text, or as a map with the entry `env` and
perhaps the entry `default`, in any order and among any other entries.
-/

namespace StatusLookup

inductive EnvValue where
  | literal (text : String)
  | fromVariable (name : String) (fallback : Option String)
  deriving DecidableEq, Repr

namespace EnvValue

/-- The entries of a map that have been found so far. -/
structure Entries where
  name : Option String
  fallback : Option (Option String)

/-- The entry of a map that a key stands for. -/
inductive EntryName where
  | env
  | default
  | other

/-- A key is a text, or the position of the entry. -/
def EntryName.ofContent? : Content → Option EntryName
  | .text "env" | .natural 0 => some env
  | .text "default" | .natural 1 => some default
  | .text _ | .natural _ => some other
  | _ => none

/-- The text to fall back on. Nothing is the same as no entry. -/
def fallbackOfContent? : Content → Option (Option String)
  | .null => some none
  | .text s => some (some s)
  | _ => none

/-- Reads one more entry. Neither of the two entries may come twice. -/
def readEntry (found : Entries) (entry : Content × Content) : Option Entries := do
  match ← EntryName.ofContent? entry.1 with
  | .env =>
    if found.name.isSome then none
    else return { found with name := some (← entry.2.text?) }
  | .default =>
    if found.fallback.isSome then none
    else return { found with fallback := some (← fallbackOfContent? entry.2) }
  | .other => return found

def ofContent? : Content → Option EnvValue
  | .text s => some (literal s)
  | .map entries => do
    let found ← entries.foldlM readEntry ⟨none, none⟩
    return fromVariable (← found.name) (found.fallback.getD none)
  | _ => none

/-- The whole JSON value must be good before its shape is looked at. -/
def ofJson (value : Json) : Except JsonError EnvValue :=
  match value.content? with
  | none => .error .malformed
  | some content =>
    match ofContent? content with
    | some v => .ok v
    | none => .error (.mismatch .noEnvValue)

/-- The text that a value stands for. A variable that is not UTF-8 counts as not set. -/
def resolve {m : Type → Type} [Monad m] [Host m] : EnvValue → m (Except Failure String)
  | literal text => return .ok text
  | fromVariable name fallback => do
    match ((← Host.getVariable name).bind Utf8.decode?).or fallback with
    | some text => return .ok text
    | none => return .error (.missingVariable name)

end EnvValue

end StatusLookup
