import StatusLookup.Json.Basic
import StatusLookup.Text.Hexadecimal

/-!
# Reading JSON

The reader goes from left to right and gives back the value with the text after it. When the text
is no JSON it gives the value up to there, ending in a cut, and no text.
-/

namespace StatusLookup.Json

def isSpace (c : Char) : Bool :=
  c == ' ' || c == '\t' || c == '\n' || c == '\r'

def skipSpace (cs : List Char) : List Char :=
  cs.dropWhile isSpace

/-! ## Strings -/

def isLeadingSurrogate (n : Nat) : Bool := 0xd800 ≤ n && n ≤ 0xdbff
def isTrailingSurrogate (n : Nat) : Bool := 0xdc00 ≤ n && n ≤ 0xdfff

/-- The character that two surrogates stand for. -/
def pairedChar (leading trailing : Nat) : Char :=
  Char.ofNat (0x10000 + (leading - 0xd800) * 1024 + (trailing - 0xdc00))

/-- The character behind a backslash, unless it is the escape of a code unit. -/
def shortEscape? : Char → Option Char
  | '"' => some '"'
  | '\\' => some '\\'
  | '/' => some '/'
  | 'b' => some '\x08'
  | 'f' => some '\x0c'
  | 'n' => some '\n'
  | 'r' => some '\r'
  | 't' => some '\t'
  | _ => none

/-- Puts characters in front of what the rest of a string gave. -/
def prepend (front : List Char) :
    Option (List Char × List Char) → Option (List Char × List Char) :=
  Option.map fun (text, rest) => (front ++ text, rest)

/-- The characters of a string after its opening quote, and the text after its closing quote.
Surrogates must come in pairs, and controls must be escaped. -/
def stringBody : List Char → Option (List Char × List Char)
  | [] => none
  | '"' :: rest => some ([], rest)
  | '\\' :: 'u' :: a :: b :: c :: d :: rest =>
    match Text.hexNumber? [a, b, c, d] with
    | none => none
    | some n =>
      if isTrailingSurrogate n then none
      else if isLeadingSurrogate n then
        match rest with
        | '\\' :: 'u' :: a :: b :: c :: d :: rest =>
          match Text.hexNumber? [a, b, c, d] with
          | none => none
          | some m =>
            if isTrailingSurrogate m then prepend [pairedChar n m] (stringBody rest) else none
        | _ => none
      else prepend [Char.ofNat n] (stringBody rest)
  | '\\' :: e :: rest =>
    match shortEscape? e with
    | none => none
    | some c => prepend [c] (stringBody rest)
  | c :: rest => if c.toNat < 0x20 ∨ c = '\\' then none else prepend [c] (stringBody rest)

/-! ## Numbers -/

def digitValue (c : Char) : Nat := c.toNat - '0'.toNat

def startsWithDigit : List Char → Bool
  | c :: _ => c.isDigit
  | [] => false

/-- Appends digits to a number as long as it stays below `2 ^ 64`. -/
def growNatural (n : Nat) : List Char → Nat × List Char
  | [] => (n, [])
  | c :: cs =>
    if c.isDigit ∧ n * 10 + digitValue c < pow2 64 then growNatural (n * 10 + digitValue c) cs
    else (n, c :: cs)

/-- The nearest binary number to a power of ten up to the 308th. -/
def powerOfTen (exponent : Nat) : Binary64 :=
  (Binary64.ofDecimal? 1 exponent).getD Binary64.zero

/-- Divides by the 308th power of ten while the exponent is beyond it, then by the rest. -/
def divideDown : Nat → Binary64 → Nat → Binary64
  | 0, x, _ => x
  | n + 1, x, exponent =>
    if exponent ≤ 308 then (x.div? (powerOfTen exponent)).getD Binary64.zero
    else divideDown n ((x.div? (powerOfTen 308)).getD Binary64.zero) (exponent - 308)

/-- A number of at most 64 bits times a power of ten, each rounded and then their product or
quotient. A number that is too large is refused. -/
def scaled? (significand : Nat) (exponent : Int) : Option Binary64 := do
  let x ← Binary64.nearest? significand 1
  if 0 ≤ exponent then
    if exponent ≤ 308 then x.mul? (powerOfTen exponent.toNat)
    else if x.isZero then some x
    else none
  else
    return divideDown 4 x (-exponent).toNat

/-- The rest of a number after the letter of its exponent. -/
def exponentPart (significand : Nat) (exponent : Int) (cs : List Char) :
    Option (Binary64 × List Char) :=
  let (down, digits) := match cs with
    | '+' :: cs => (false, cs)
    | '-' :: cs => (true, cs)
    | cs => (false, cs)
  if startsWithDigit digits then
    let n := (digits.takeWhile Char.isDigit).foldl (fun n c => n * 10 + digitValue c) 0
    let rest := digits.dropWhile Char.isDigit
    if n < pow2 31 then
      (scaled? significand (if down then exponent - n else exponent + n)).map (·, rest)
    else if significand = 0 ∨ down then some (Binary64.zero, rest)
    else none
  else none

/-- The rest of a number after its digits: an exponent, or nothing. -/
def afterDigits (significand : Nat) (exponent : Int) (cs : List Char) :
    Option (Binary64 × List Char) :=
  match cs with
  | 'e' :: cs | 'E' :: cs => exponentPart significand exponent cs
  | cs => (scaled? significand exponent).map (·, cs)

/-- The rest of a number after its point. Digits that no longer fit into 64 bits are left out. -/
def fractionPart (significand : Nat) (exponent : Int) (cs : List Char) :
    Option (Binary64 × List Char) :=
  let (n, rest) := growNatural significand cs
  let taken := cs.length - rest.length
  if startsWithDigit rest then
    afterDigits n (exponent - taken) (rest.dropWhile Char.isDigit)
  else if taken = 0 then none
  else afterDigits n (exponent - taken) rest

/-- The rest of a number that is not whole, after its whole part. -/
def realPart (significand : Nat) (exponent : Int) (cs : List Char) :
    Option (Binary64 × List Char) :=
  match cs with
  | '.' :: cs => fractionPart significand exponent cs
  | cs => afterDigits significand exponent cs

/-- Whether a number goes on behind digits that fit into 64 bits: with more digits, a point or an
exponent. -/
def goesOn : List Char → Bool
  | c :: _ => c.isDigit || c == '.' || c == 'e' || c == 'E'
  | [] => false

def hasLeadingZero : List Char → Bool
  | '0' :: rest => startsWithDigit rest
  | _ => false

/-- A whole number with its sign. One that does not fit into 64 bits with a sign is rounded, and so
is zero with a minus sign. -/
def wholeNumber (negative : Bool) (n : Nat) : Option JsonNumber :=
  if !negative then some (.natural n)
  else if n = 0 ∨ pow2 63 < n then (Binary64.nearest? n 1).map (.real true)
  else some (.negative (-(n : Int)))

/-- A number without its sign, and the text after it. -/
def readNumber (negative : Bool) (cs : List Char) : Option (JsonNumber × List Char) :=
  if hasLeadingZero cs || !startsWithDigit cs then none
  else
    let (n, rest) := growNatural 0 cs
    if goesOn rest then
      let dropped := (rest.takeWhile Char.isDigit).length
      (realPart n dropped (rest.dropWhile Char.isDigit)).map fun (x, rest) =>
        (.real negative x, rest)
    else (wholeNumber negative n).map (·, rest)

/-! ## Values -/

/-- The deepest nesting of arrays and objects. -/
def maxDepth : Nat := 127

/-- A value and the text after it; no text when the value is cut. -/
abbrev Reading := Json × Option (List Char)

def cutReading : Reading := (cut, none)

/-- The rest of a word of the notation. -/
def word (expected : List Char) (value : Json) (cs : List Char) : Reading :=
  if expected.isPrefixOf cs then (value, some (cs.drop expected.length)) else cutReading

mutual

/-- Reads a value inside at most `depth` more arrays and objects. Each step takes something off
the text, so the length of the text is enough steps. -/
def readValue : (steps depth : Nat) → List Char → Reading
  | 0, _, _ => cutReading
  | steps + 1, depth, cs =>
    match skipSpace cs with
    | 'n' :: cs => word ['u', 'l', 'l'] null cs
    | 't' :: cs => word ['r', 'u', 'e'] (bool true) cs
    | 'f' :: cs => word ['a', 'l', 's', 'e'] (bool false) cs
    | '"' :: cs =>
      match stringBody cs with
      | some (text, rest) => (string (String.ofList text), some rest)
      | none => cutReading
    | '-' :: cs =>
      match readNumber true cs with
      | some (n, rest) => (number n, some rest)
      | none => cutReading
    | '[' :: cs =>
      if depth = 0 then (array [cut], none)
      else
        let (items, rest) := readItems steps (depth - 1) true cs
        (array items, rest)
    | '{' :: cs =>
      if depth = 0 then (object [("", cut)], none)
      else
        let (members, rest) := readMembers steps (depth - 1) true cs
        (object members, rest)
    | c :: cs =>
      match readNumber false (c :: cs) with
      | some (n, rest) => (number n, some rest)
      | none => cutReading
    | [] => cutReading

/-- Reads the items of an array up to its bracket. -/
def readItems : (steps depth : Nat) → (first : Bool) → List Char →
    List Json × Option (List Char)
  | 0, _, _, _ => ([cut], none)
  | steps + 1, depth, first, cs =>
    let item (cs : List Char) : List Json × Option (List Char) :=
      match readValue steps depth cs with
      | (value, none) => ([value, cut], none)
      | (value, some rest) =>
        let (items, rest) := readItems steps depth false rest
        (value :: items, rest)
    match skipSpace cs with
    | ']' :: cs => ([], some cs)
    | ',' :: cs =>
      if first then ([cut], none)
      else
        match skipSpace cs with
        | ']' :: _ => ([cut], none)
        | cs => item cs
    | cs => if first then item cs else ([cut], none)

/-- Reads the members of an object up to its brace. -/
def readMembers : (steps depth : Nat) → (first : Bool) → List Char →
    List (String × Json) × Option (List Char)
  | 0, _, _, _ => ([("", cut)], none)
  | steps + 1, depth, first, cs =>
    let member (cs : List Char) : List (String × Json) × Option (List Char) :=
      match cs with
      | '"' :: cs =>
        match stringBody cs with
        | none => ([("", cut)], none)
        | some (name, rest) =>
          match skipSpace rest with
          | ':' :: rest =>
            match readValue steps depth rest with
            | (value, none) => ([(String.ofList name, value), ("", cut)], none)
            | (value, some rest) =>
              let (members, rest) := readMembers steps depth false rest
              ((String.ofList name, value) :: members, rest)
          | _ => ([("", cut)], none)
      | _ => ([("", cut)], none)
    match skipSpace cs with
    | '}' :: cs => ([], some cs)
    | ',' :: cs => if first then ([("", cut)], none) else member (skipSpace cs)
    | cs => if first then member cs else ([("", cut)], none)

end

/-- Reads the value that a text starts with. -/
def read (text : String) : Reading :=
  readValue (text.toList.length + 1) maxDepth text.toList

/-- Reads a text that must be one value and nothing else. A value of the wrong kind is refused
before what comes after it is looked at. -/
def decode {α : Type} (reader : Json → Except JsonError α) (text : String) :
    Except JsonError α := do
  let (value, rest) := read text
  let result ← reader value
  match rest with
  | some rest => if (skipSpace rest).isEmpty then return result else throw .malformed
  | none => throw .malformed

end StatusLookup.Json
