/-!
# Log lines

A lookup tells what it does in log lines. It writes them through `Logger`, so that a program can
print them and a test can look at them.
-/

namespace StatusLookup

inductive LogLevel where
  | debug
  | warn
  deriving DecidableEq, Repr

def LogLevel.name : LogLevel → String
  | debug => "DEBUG"
  | warn => "WARN"

structure LogLine where
  level : LogLevel
  message : String
  deriving DecidableEq, Repr

/-- The line as shown: the level, then the message. -/
def LogLine.render (line : LogLine) : String :=
  line.level.name ++ " " ++ line.message

/-- Where log lines can be written. -/
class Logger (m : Type → Type) where
  log : LogLine → m Unit

/-- Writes a line about the course of a lookup. -/
def logDebug {m : Type → Type} [Logger m] (message : String) : m Unit :=
  Logger.log ⟨.debug, message⟩

/-- Writes a line about something that needs attention. -/
def logWarn {m : Type → Type} [Logger m] (message : String) : m Unit :=
  Logger.log ⟨.warn, message⟩

end StatusLookup
