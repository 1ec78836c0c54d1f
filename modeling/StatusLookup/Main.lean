import StatusLookup.CommandLine.Run

/-!
# The program

The only surroundings with effects: files, environment and streams of the process. Log lines go to
the standard error, those about the course of a lookup only if they are asked for. Arguments that
ask for no command are answered with what the program is for and what its commands do.
-/

namespace StatusLookup

/-- Runs in the process. The flag tells whether all log lines are shown. -/
abbrev Console := ReaderT Bool IO

namespace Console

/-- The number of an error, which may be given as its negative. -/
def errorNumber (code : UInt32) : UInt32 :=
  if code < 0x80000000 then code else -code

/-- The failure that an error of the operating system stands for. -/
def ioErrorOf : IO.Error → IoError
  | .noFileOrDirectory .. => .notFound
  | .inappropriateType _ code _ =>
    if errorNumber code = 20 then .notADirectory else .isADirectory
  | .invalidArgument file code details =>
    if errorNumber code = 36 then .nameTooLong
    else .other (toString (IO.Error.invalidArgument file code details))
  | e => .other (toString e)

def readBytes (path : String) : IO (Except IoError Bytes) := do
  if '\x00' ∈ path.toList then return .error .nulInName
  try
    return .ok (← IO.FS.readBinFile path).toList
  catch e =>
    return .error (ioErrorOf e)

def currentDirectory : IO (Except IoError String) := do
  try
    return .ok (toString (← IO.currentDir))
  catch e =>
    return .error (ioErrorOf e)

def leadsSomewhere (path : String) : IO Bool := do
  if '\x00' ∈ path.toList then return false
  try
    discard (IO.FS.realPath path)
    return true
  catch _ =>
    return false

instance : Host Console where
  log line := do
    if line.level = .warn ∨ (← read) then IO.eprintln line.render
  readFile path := readBytes path
  pathExists path := leadsSomewhere path
  getVariable name := do return (← IO.getEnv name).map Utf8.encode
  currentDirectory := currentDirectory

/-- What the program is for, and what its commands do. -/
def overview : String :=
  "Inspect deployment status records in a key-value store\n\n" ++
  "status: Show the current status of a deployment\n" ++
  "exists: Check whether a deployment exists\n" ++
  "parse: Parse a status string and print its canonical form\n" ++
  "statuses: List every known status in lifecycle order\n"

def notices : CommandLine.Notices :=
  ⟨fun _ => overview, fun _ => overview⟩

end Console

end StatusLookup

open StatusLookup in
/-- Runs the command that the arguments ask for. -/
def main (args : List String) : IO UInt32 := do
  let verbose := match CommandLine.ofArguments args with
    | .ok (options, _) => options.verbose
    | .error _ => false
  let outcome ← (CommandLine.run Console.notices args : Console _).run verbose
  IO.print outcome.output
  IO.eprint outcome.errors
  return outcome.exitCode.toUInt32
