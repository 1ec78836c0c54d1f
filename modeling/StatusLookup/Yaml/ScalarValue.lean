import StatusLookup.Data.Content
import StatusLookup.Data.Mismatch
import StatusLookup.Text.Hexadecimal
import StatusLookup.Yaml.Tag

/-!
# What scalars mean

A plain scalar may be nothing, a truth value or a number; any other scalar is a text. A tag can
say what a scalar is, and then a text that is none of that kind is a fault. A number with zeros in
front of its digits is a text.
-/

namespace StatusLookup.Yaml

inductive ScalarValue where
  | nothing
  | boolean (b : Bool)
  | natural (n : Nat)
  /-- An integer with a minus sign. -/
  | negative (n : Int)
  /-- An integer that needs more than 64 bits, but not more than 128. -/
  | wide (n : Int)
  | real (negative : Bool) (x : Binary64)
  | infinite (negative : Bool)
  | notANumber
  | text (s : String)

namespace ScalarValue

def found : ScalarValue → Found
  | nothing => .nothing
  | boolean b => .boolean b
  | natural n => .integer n
  | negative n => .integer n
  | wide n => .wideInteger n
  | real isNegative x => .real isNegative x
  | infinite isNegative => .infinite isNegative
  | notANumber => .notANumber
  | text s => .text s

/-- The value apart from its notation, unless it is too wide. -/
def content? : ScalarValue → Option Content
  | nothing => some .null
  | boolean b => some (.bool b)
  | natural n => some (.natural n)
  | negative n => some (.negative n)
  | wide _ => none
  | real _ _ | infinite _ | notANumber => some .real
  | text s => some (.text s)

/-! ## Words -/

def nothing? : String → Option ScalarValue
  | "~" | "null" | "Null" | "NULL" => some nothing
  | _ => none

def boolean? : String → Option ScalarValue
  | "true" | "True" | "TRUE" => some (boolean true)
  | "false" | "False" | "FALSE" => some (boolean false)
  | _ => none

/-! ## Numbers -/

/-- Without one plus sign in front. Two signs are refused. -/
def dropPlus? : List Char → Option (List Char)
  | '+' :: '+' :: _ | '+' :: '-' :: _ => none
  | '+' :: cs => some cs
  | cs => some cs

/-- Whether a text is a number but for zeros in front of its digits. -/
def hasLeadingZero (cs : List Char) : Bool :=
  let unsigned := match cs with
    | '+' :: cs | '-' :: cs => cs
    | cs => cs
  match unsigned with
  | '0' :: c :: cs => (c :: cs).all Char.isDigit
  | _ => false

def digits? (base : Nat) (cs : List Char) : Option Nat :=
  if cs = [] then none
  else
    cs.foldlM (fun n c => do
      let d ← Text.hexDigit? c
      if d < base then return n * base + d else none) 0

/-- The number that digits write, in a base that may be named in front of them. -/
def magnitude? (cs : List Char) : Option Nat :=
  match cs with
  | '0' :: 'x' :: cs => digits? 16 cs
  | '0' :: 'o' :: cs => digits? 8 cs
  | '0' :: 'b' :: cs => digits? 2 cs
  | cs => if hasLeadingZero cs then none else digits? 10 cs

/-- A whole number of at most 128 bits. -/
def integer? (cs : List Char) : Option ScalarValue :=
  match cs with
  | '-' :: cs => do
    let n ← magnitude? cs
    if n ≤ pow2 63 then return negative (-(n : Int))
    else if n ≤ pow2 127 then return wide (-(n : Int))
    else none
  | cs => do
    let n ← magnitude? (← dropPlus? cs)
    if n < pow2 64 then return natural n
    else if n < pow2 128 then return wide n
    else none

/-- The power of ten behind the digits of a number. -/
def exponent? : List Char → Option Int
  | [] => some 0
  | c :: cs =>
    if c = 'e' ∨ c = 'E' then
      match cs with
      | '-' :: cs => (digits? 10 cs).map fun n => -(n : Int)
      | '+' :: cs => (digits? 10 cs).map fun n => (n : Int)
      | cs => (digits? 10 cs).map fun n => (n : Int)
    else none

/-- The number that decimal digits write, perhaps with a point among them and a power of ten
behind. One that is too large is none. -/
def decimal? (cs : List Char) : Option Binary64 := do
  let whole := cs.takeWhile Char.isDigit
  let (fraction, rest) := match cs.dropWhile Char.isDigit with
    | '.' :: cs => (cs.takeWhile Char.isDigit, cs.dropWhile Char.isDigit)
    | cs => ([], cs)
  let n ← digits? 10 (whole ++ fraction)
  let exponent ← exponent? rest
  Binary64.ofDecimal? n (exponent - fraction.length)

def real? (cs : List Char) : Option ScalarValue :=
  match String.ofList cs with
  | ".nan" | ".NaN" | ".NAN" => some notANumber
  | "-.inf" | "-.Inf" | "-.INF" => some (infinite true)
  | ".inf" | ".Inf" | ".INF" | "+.inf" | "+.Inf" | "+.INF" => some (infinite false)
  | _ => do
    match ← dropPlus? cs with
    | '-' :: cs => return real true (← decimal? cs)
    | cs => return real false (← decimal? cs)

/-! ## Scalars -/

/-- What a plain scalar without a tag means. -/
def ofPlain (s : String) : ScalarValue :=
  if s = "" then nothing
  else
    let cs := s.toList
    let real := if hasLeadingZero cs then none else real? cs
    ((((nothing? s).or (boolean? s)).or (integer? cs)).or real).getD (text s)

/-- What a scalar means, unless it is none of the type that its tag names. -/
def ofScalar? (tag : Option Tag) (s : String) (isPlain : Bool) : Option ScalarValue :=
  match tag with
  | none => some (if isPlain then ofPlain s else text s)
  | some tag =>
    if tag = Tag.core "bool" then boolean? s
    else if tag = Tag.core "int" then integer? s.toList
    else if tag = Tag.core "float" then real? s.toList
    else if tag = Tag.core "null" then nothing? s
    else if tag.startsLocal && isPlain then some (ofPlain s)
    else some (text s)

end ScalarValue

end StatusLookup.Yaml
