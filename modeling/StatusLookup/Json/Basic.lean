import StatusLookup.Data.Content
import StatusLookup.Data.Mismatch

/-!
# JSON values

A value keeps the members of an object in the order of the text, repeats included. Reading never
fails as a whole: where the text ends early or stops being JSON, the value has a `cut`, and what
stands before it can still be looked at.
-/

namespace StatusLookup

/-- A number of a JSON text. A whole number that fits into 64 bits stays whole. -/
inductive JsonNumber where
  | natural (n : Nat)
  | negative (n : Int)
  | real (negative : Bool) (x : Binary64)

/-- A JSON value, as far as it could be read. -/
inductive Json where
  | null
  | bool (b : Bool)
  | number (n : JsonNumber)
  | string (s : String)
  | array (items : List Json)
  | object (members : List (String × Json))
  /-- The text is no JSON from here on. -/
  | cut

/-- Why a JSON text gave no value of the wanted kind. -/
inductive JsonError where
  | malformed
  | mismatch (m : Mismatch)

namespace Json

/-- Nothing is `null`, and a fraction has an exponent when the point stands more than four zeros
to the left or sixteen digits to the right. -/
def wording : Wording :=
  ⟨"null", ⟨some (-5, 16)⟩⟩

end Json

def JsonError.message : JsonError → String
  | malformed => "malformed JSON"
  | mismatch m => m.message Json.wording

namespace JsonNumber

def found : JsonNumber → Found
  | natural n => .integer n
  | negative n => .integer n
  | real isNegative x => .real isNegative x

def content : JsonNumber → Content
  | natural n => .natural n
  | negative n => .negative n
  | real _ _ => .real

end JsonNumber

namespace Json

/-- The error of a reader that wants something else. -/
def refuse (wanted : Wanted) : Json → JsonError
  | null => .mismatch (.wrongType .nothing wanted)
  | bool b => .mismatch (.wrongType (.boolean b) wanted)
  | number n => .mismatch (.wrongType n.found wanted)
  | string s => .mismatch (.wrongType (.text s) wanted)
  | array _ => .mismatch (.wrongType .sequence wanted)
  | object _ => .mismatch (.wrongType .mapping wanted)
  | cut => .malformed

mutual

/-- The value apart from its notation, unless it is cut somewhere. -/
def content? : Json → Option Content
  | null => some .null
  | bool b => some (.bool b)
  | number n => some n.content
  | string s => some (.text s)
  | array items => (contents? items).map .list
  | object members => (memberContents? members).map .map
  | cut => none

def contents? : List Json → Option (List Content)
  | [] => some []
  | item :: items => do
    let first ← content? item
    let rest ← contents? items
    return first :: rest

def memberContents? : List (String × Json) → Option (List (Content × Content))
  | [] => some []
  | (name, value) :: members => do
    let first ← content? value
    let rest ← memberContents? members
    return (.text name, first) :: rest

end

end Json

end StatusLookup
