import StatusLookup.Text.Hexadecimal
import StatusLookup.Text.Utf8
import StatusLookup.Yaml.Cursor

/-!
# Tags and directives

A tag names the type of a value. It is written in full between angle brackets, or as a handle and
a rest; a directive in front of a document says what a handle stands for. Octets of a tag may be
written as a percent sign and two digits.
-/

namespace StatusLookup.Yaml

/-- A tag, as octets. -/
abbrev Tag := Bytes

namespace Tag

def core (name : String) : Tag :=
  Utf8.encode ("tag:yaml.org,2002:" ++ name)

/-- Whether a tag begins like an application's own. -/
def startsLocal (tag : Tag) : Bool :=
  (Utf8.encode "!").isPrefixOf tag

def isLocal (tag : Tag) : Bool :=
  tag.startsLocal && (Utf8.decode? (tag.drop 1)).isSome

end Tag

/-- A tag as written. Without a handle the rest is the whole tag. -/
structure TagName where
  handle : List Char
  rest : Bytes
  deriving DecidableEq

/-- What a directive says about the documents after it. -/
inductive Directive where
  | version (major minor : Nat)
  | handle (handle : List Char) (meaning : Bytes)
  deriving DecidableEq

/-! ## Identifiers -/

/-- A character that may stand in a tag. Some may only stand between angle brackets or in a
directive. -/
def isTagChar (bracketed : Bool) (c : Char) : Bool :=
  isWordChar c || [';', '/', '?', ':', '@', '&', '=', '+', '$', '.', '!', '~', '*', '\'', '(',
    ')'].contains c || (bracketed && (c == ',' || c == '[' || c == ']'))

/-- How many octets follow an octet that begins a character. -/
def followers? (octet : Nat) : Option Nat :=
  if octet < 0x80 then some 0
  else if octet < 0xc0 then none
  else if octet < 0xe0 then some 1
  else if octet < 0xf0 then some 2
  else if octet < 0xf8 then some 3
  else none

/-- How many more octets must follow this one, if it may stand here. -/
def afterOctet? (missing octet : Nat) : Option Nat :=
  match missing with
  | 0 => followers? octet
  | missing + 1 => if 0x80 ≤ octet ∧ octet < 0xc0 then some missing else none

/-- The octets of a tag and the text after them. `missing` octets must be written as numbers. -/
def readOctets (bracketed : Bool) (missing : Nat) (taken : Bytes) :
    List Char → Option (Bytes × List Char)
  | [] => if missing = 0 then some (taken.reverse, []) else none
  | '%' :: a :: b :: cs =>
    match Text.hexNumber? [a, b] with
    | none => none
    | some octet =>
      match afterOctet? missing octet with
      | none => none
      | some missing => readOctets bracketed missing (UInt8.ofNat octet :: taken) cs
  | c :: cs =>
    if 0 < missing ∨ c = '%' then none
    else if isTagChar bracketed c then
      readOctets bracketed 0 (UInt8.ofNat c.toNat :: taken) cs
    else some (taken.reverse, c :: cs)

/-- Octets after a zero are lost. -/
def cutAtZero (bytes : Bytes) : Bytes :=
  bytes.takeWhile (· != 0)

/-- The octets that a text starts with, of which there must be some. -/
def readSomeOctets (bracketed : Bool) (cs : List Char) : Option (Bytes × List Char) :=
  match readOctets bracketed 0 [] cs with
  | some ([], _) => none
  | some (bytes, rest) => some (cutAtZero bytes, rest)
  | none => none

/-! ## Tags -/

/-- A tag behind its exclamation mark. -/
def readTagName (cs : List Char) : Option (TagName × List Char) :=
  match cs with
  | '<' :: cs =>
    match readSomeOctets true cs with
    | some (bytes, '>' :: rest) => some (⟨[], bytes⟩, rest)
    | _ => none
  | cs =>
    let word := cs.takeWhile isWordChar
    match cs.dropWhile isWordChar with
    | '!' :: cs =>
      (readSomeOctets false cs).map fun (bytes, rest) => (⟨'!' :: word ++ ['!'], bytes⟩, rest)
    | cs =>
      (readOctets false 0 [] cs).map fun (bytes, rest) =>
        let bytes := cutAtZero (word.map (fun c => UInt8.ofNat c.toNat) ++ bytes)
        if bytes = [] then (⟨[], Utf8.encode "!"⟩, rest) else (⟨['!'], bytes⟩, rest)

/-- What handles stand for. The first meaning of a handle counts. -/
abbrev TagHandles := List (List Char × Bytes)

namespace TagHandles

/-- The two handles that need no directive. -/
def standard : TagHandles :=
  [(['!'], Utf8.encode "!"), (['!', '!'], Utf8.encode "tag:yaml.org,2002:")]

def resolve? (handles : TagHandles) (name : TagName) : Option Tag :=
  if name.handle = [] then some name.rest
  else (handles.lookup name.handle).map (· ++ name.rest)

end TagHandles

/-! ## Directives -/

/-- A number of at most nine digits. -/
def readVersionNumber (cs : List Char) : Option (Nat × List Char) :=
  let digits := cs.takeWhile Char.isDigit
  if digits = [] ∨ 9 < digits.length then none
  else some (digits.foldl (fun n c => n * 10 + (c.toNat - '0'.toNat)) 0, cs.dropWhile Char.isDigit)

/-- A version behind the blanks in front of it. -/
def readVersion (cs : List Char) : Option (Directive × List Char) :=
  match readVersionNumber cs with
  | some (major, '.' :: cs) =>
    (readVersionNumber cs).map fun (minor, rest) => (.version major minor, rest)
  | _ => none

/-- A handle and its meaning, behind the blanks in front of them. -/
def readHandle (cs : List Char) : Option (Directive × List Char) :=
  match cs with
  | '!' :: cs =>
    let word := cs.takeWhile isWordChar
    let handle := match cs.dropWhile isWordChar with
      | '!' :: cs => some ('!' :: word ++ ['!'], cs)
      | cs => if word = [] then some (['!'], cs) else none
    match handle with
    | some (handle, c :: cs) =>
      if isBlank c then
        match readSomeOctets true (cs.dropWhile isBlank) with
        | some (meaning, rest) =>
          if atBlankOrEnd rest then some (.handle handle meaning, rest) else none
        | none => none
      else none
    | _ => none
  | _ => none

/-- A directive behind its percent sign. -/
def readDirective (cs : List Char) : Option (Directive × List Char) :=
  let rest := cs.dropWhile isWordChar
  if !atBlankOrEnd rest then none
  else
    match String.ofList (cs.takeWhile isWordChar) with
    | "YAML" => readVersion (rest.dropWhile isBlank)
    | "TAG" => readHandle (rest.dropWhile isBlank)
    | _ => none

end StatusLookup.Yaml
