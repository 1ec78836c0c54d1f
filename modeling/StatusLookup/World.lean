import StatusLookup.FileSystem.Tree
import StatusLookup.Host

/-!
# Surroundings as a value

A `World` is everything a run can see: a directory tree with the current directory in it, and the
environment variables. `Observed` runs a computation in a world that does not change, and keeps a
trace of what it did.
-/

namespace StatusLookup

/-- The surroundings of a run, as a value. -/
structure World where
  /-- The current directory. -/
  directory : Place
  /-- The absolute path of the current directory, or why it has none. -/
  directoryPath : Except IoError String
  /-- The environment variables that are set. -/
  environment : List (String × Bytes)

namespace World

/-- The value of a variable. No variable can be set whose name is empty or holds an equals sign or
a NUL. -/
def valueOf? (w : World) (name : String) : Option Bytes :=
  if name = "" ∨ '=' ∈ name.toList ∨ '\x00' ∈ name.toList then none
  else w.environment.lookup name

end World

inductive FileAccess where
  /-- What does the file at this path hold? -/
  | content (path : String)
  /-- Does this path lead anywhere? -/
  | existence (path : String)
  deriving DecidableEq, Repr

/-- What a run did: the keys it read, what it asked the file system, and the log lines it wrote. -/
structure Trace where
  reads : List String
  accesses : List FileAccess
  lines : List LogLine
  deriving DecidableEq, Repr

namespace Trace

def empty : Trace := ⟨[], [], []⟩

def addRead (t : Trace) (key : String) : Trace :=
  { t with reads := t.reads ++ [key] }

def addAccess (t : Trace) (access : FileAccess) : Trace :=
  { t with accesses := t.accesses ++ [access] }

def addLine (t : Trace) (line : LogLine) : Trace :=
  { t with lines := t.lines ++ [line] }

end Trace

/-- A run in a world, with its trace. -/
abbrev Observed := ReaderT World (StateM Trace)

namespace Observed

def observe {α : Type} (run : Observed α) (w : World) : α × Trace :=
  (run.run w).run Trace.empty

def result {α : Type} (run : Observed α) (w : World) : α :=
  (run.observe w).1

def trace {α : Type} (run : Observed α) (w : World) : Trace :=
  (run.observe w).2

def noteRead (key : String) : Observed Unit :=
  modify fun t => t.addRead key

instance : Host Observed where
  log line := modify fun t => t.addLine line
  readFile path := do
    modify fun t => t.addAccess (.content path)
    return (← read).directory.readFile path
  pathExists path := do
    modify fun t => t.addAccess (.existence path)
    return (← read).directory.pathExists path
  getVariable name := do return (← read).valueOf? name
  currentDirectory := do return (← read).directoryPath

end Observed

end StatusLookup
