import StatusLookup.CommandLine.Arguments
import StatusLookup.Config.Load

/-!
# Running commands

A command gives a text for the standard output or it fails, and nothing of its output is written
before that is decided. What is said about the arguments themselves, to refuse them or to explain
them, is left to whoever reads them from the process: a run is given these texts as `Notices`.
-/

namespace StatusLookup.CommandLine

/-- What a run leaves behind. Log lines are no part of it. -/
structure Outcome where
  exitCode : UInt8
  output : String
  /-- What is said about a failure, as far as `Failure.message` tells it. -/
  errors : String
  deriving DecidableEq, Repr

/-- The outcome of a command: its output, or the message of its failure. -/
def Outcome.ofResult : Except Failure String → Outcome
  | .ok output => ⟨0, output, ""⟩
  | .error e => ⟨1, "", "Error: " ++ e.message ++ "\n"⟩

def versionText : String :=
  "depstat 0.1.0\n"

/-- What is said about arguments that ask for no command. It may depend on all of them. -/
structure Notices where
  /-- What is wrong with arguments that are refused. -/
  usage : List String → String
  /-- The answer to a request for help. -/
  help : List String → String

def Notices.silent : Notices :=
  ⟨fun _ => "", fun _ => ""⟩

def Stop.outcome (notices : Notices) (args : List String) : Stop → Outcome
  | usage => ⟨2, "", notices.usage args⟩
  | version => ⟨0, versionText, ""⟩
  | help => ⟨0, notices.help args, ""⟩

/-- A text on a line of its own. -/
def line (text : String) : String :=
  text ++ "\n"

variable {m : Type → Type} [Monad m] [Host m]

/-- The configuration in the given file, or the one of the current directory. -/
def loadConfig (options : Options) : m (Except Failure Config) := do
  match options.config with
  | some path => Config.load path
  | none =>
    match ← Host.currentDirectory with
    | .error e => return .error (.io e)
    | .ok directory => Config.discover directory

/-- The records that the configuration leads to. -/
def openRepository (options : Options) : m (Except Failure (Repository m)) := do
  match ← loadConfig options with
  | .error e => return .error e
  | .ok config => config.repository

def Command.output (options : Options) : Command → m (Except Failure String)
  | status deployment json => do
    match ← openRepository options with
    | .error e => return .error e
    | .ok repository =>
      match ← repository.status deployment with
      | .error e => return .error (.lookup e)
      | .ok s => return .ok (line (if json then report deployment s else s.name))
  | hasStatus deployment => do
    match ← openRepository options with
    | .error e => return .error e
    | .ok repository =>
      match ← repository.hasStatus deployment with
      | .error e => return .error (.lookup e)
      | .ok found => return .ok (line (if found then "true" else "false"))
  | parse text strict => do
    match Status.parse text !strict with
    | .error e => return .error (.invalidStatus e)
    | .ok s => return .ok (line s.name)
  | statuses => return .ok (String.join (Status.all.map fun s => line s.name))

def run (notices : Notices) (args : List String) : m Outcome := do
  match ofArguments args with
  | .error stop => return stop.outcome notices args
  | .ok (options, command) => return .ofResult (← command.output options)

end StatusLookup.CommandLine
