import StatusLookup.CommandLine.Command

/-!
# Command line arguments

Options may stand in front of the name of the command and behind it. They are read from left to
right, and the first thing that decides the matter does: an argument that is wrong, or a request
for the version or for help. Behind two dashes nothing is an option any more.
-/

namespace StatusLookup.CommandLine

/-- Why reading the arguments stopped. -/
inductive Stop where
  | usage
  | version
  | help
  deriving DecidableEq, Repr

/-- What arguments may stand at a place: in front of the command, or behind its name. -/
structure Level where
  /-- The commands whose name may come. -/
  commands : List String
  /-- Whether the version can be asked for. -/
  hasVersion : Bool
  /-- The name of the switch that only this command has. -/
  switch : Option String
  /-- Whether a text must come that is no option. -/
  hasText : Bool

/-- What has been given at a level. -/
structure Given where
  config : Option String
  verbose : Bool
  switched : Bool
  text : Option String

namespace Given

def nothing : Given := ⟨none, false, false, none⟩

/-- Gives the configuration file, which may not be given twice and has a name. -/
def setConfig (g : Given) (path : String) : Except Stop Given :=
  if g.config.isSome ∨ path = "" then .error .usage else .ok { g with config := some path }

def setVerbose (g : Given) : Except Stop Given :=
  if g.verbose then .error .usage else .ok { g with verbose := true }

def setSwitch (g : Given) : Except Stop Given :=
  if g.switched then .error .usage else .ok { g with switched := true }

def setText (g : Given) (text : String) : Except Stop Given :=
  if g.text.isSome then .error .usage else .ok { g with text := some text }

end Given

/-- An argument, by how it looks. -/
inductive Argument where
  /-- Two dashes. -/
  | escape
  /-- Two dashes and a name, perhaps with a value behind an equals sign. -/
  | long (name : String) (value : Option String)
  /-- One dash and letters. -/
  | short (letters : List Char)
  | text (s : String)
  deriving DecidableEq, Repr

namespace Argument

/-- Takes a name and the value behind an equals sign apart. -/
def ofLong (cs : List Char) : Argument :=
  match cs.dropWhile (· != '=') with
  | [] => long (String.ofList cs) none
  | _ :: value => long (String.ofList (cs.takeWhile (· != '='))) (some (String.ofList value))

def ofString (s : String) : Argument :=
  match s.toList with
  | ['-', '-'] => escape
  | '-' :: '-' :: cs => ofLong cs
  | '-' :: c :: cs => short (c :: cs)
  | _ => text s

end Argument

namespace Level

/-- Takes an option with a long name. What is still missing is the name of a configuration file. -/
def takeLong (level : Level) (g : Given) (name : String) (value : Option String) :
    Except Stop (Given × Bool) :=
  if name = "config" then
    match value with
    | some path => return (← g.setConfig path, false)
    | none => return (g, true)
  else if value.isSome then throw .usage
  else if name = "verbose" then return (← g.setVerbose, false)
  else if name = "help" then throw .help
  else if level.hasVersion ∧ name = "version" then throw .version
  else if level.switch = some name then return (← g.setSwitch, false)
  else throw .usage

/-- Takes options of one letter. Behind the letter for the configuration file is its name. -/
def takeShort (level : Level) (g : Given) : List Char → Except Stop (Given × Bool)
  | [] => return (g, false)
  | c :: cs =>
    if c = 'c' then
      match cs with
      | [] => return (g, true)
      | '=' :: path => return (← g.setConfig (String.ofList path), false)
      | path => return (← g.setConfig (String.ofList path), false)
    else if c = 'v' then
      match g.setVerbose with
      | .ok g => takeShort level g cs
      | .error e => throw e
    else if c = 'h' then throw .help
    else if level.hasVersion ∧ c = 'V' then throw .version
    else throw .usage

def takeText (level : Level) (g : Given) (text : String) : Except Stop Given :=
  if level.hasText then g.setText text else throw .usage

/-- Takes options up to the end or up to the name of a command, and gives that name with the
arguments behind it. -/
def take (level : Level) (g : Given) :
    List String → Except Stop (Given × Option (String × List String))
  | [] => return (g, none)
  | arg :: args =>
    if arg ∈ level.commands then return (g, some (arg, args))
    else
      let goOn (taken : Except Stop (Given × Bool)) :
          Except Stop (Given × Option (String × List String)) :=
        match taken with
        | .error e => throw e
        | .ok (g, false) => take level g args
        | .ok (g, true) =>
          match args with
          | [] => throw .usage
          | path :: args =>
            match Argument.ofString path with
            | .text path =>
              match g.setConfig path with
              | .ok g => take level g args
              | .error e => throw e
            | _ => throw .usage
      match Argument.ofString arg with
      | .escape => return (← args.foldlM level.takeText g, none)
      | .long name value => goOn (level.takeLong g name value)
      | .short letters => goOn (level.takeShort g letters)
      | .text text => goOn (return (← level.takeText g text, false))

end Level

def levelOf? : String → Option Level
  | "status" => some ⟨[], false, some "json", true⟩
  | "exists" => some ⟨[], false, none, true⟩
  | "parse" => some ⟨[], false, some "strict", true⟩
  | "statuses" => some ⟨[], false, none, false⟩
  | _ => none

/-- The level in front of the command. -/
def topLevel : Level :=
  ⟨["status", "exists", "parse", "statuses", "help"], true, none, false⟩

/-- The command of a name, from what is given behind it. -/
def commandOf? (name : String) (g : Given) : Option Command :=
  match name, g.text with
  | "status", some deployment => some (.status deployment g.switched)
  | "exists", some deployment => some (.hasStatus deployment)
  | "parse", some text => some (.parse text g.switched)
  | "statuses", none => some .statuses
  | _, _ => none

/-- What a request for help with these commands comes to. No command has others below it, so there
is none for two. -/
def helpWith : List String → Stop
  | [] => .help
  | [name] => if name ∈ topLevel.commands then .help else .usage
  | _ => .usage

/-- The command that arguments ask for. A configuration file given behind the name of the command
counts more than one in front of it. -/
def ofArguments (args : List String) : Except Stop (Options × Command) := do
  match ← topLevel.take .nothing args with
  | (_, none) => throw .usage
  | (outer, some (name, args)) =>
    match levelOf? name with
    | none => throw (helpWith args)
    | some level =>
      let (inner, _) ← level.take .nothing args
      match commandOf? name inner with
      | none => throw .usage
      | some command =>
        return (⟨inner.config.or outer.config, outer.verbose || inner.verbose⟩, command)

end StatusLookup.CommandLine
