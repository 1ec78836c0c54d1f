/-!
# Reading a YAML text

A text is read from left to right by line and column. Before that its line breaks are made alike,
except for the two separators that stay what they are. A text with a character that YAML refuses
is not read at all.
-/

namespace StatusLookup.Yaml

/-! ## Characters -/

/-- Whether a character may stand in a text: a tab, a line break, or what is no control. -/
def isAllowed (c : Char) : Bool :=
  c == '\t' || c == '\n' || c == '\r' || c == '\u0085' ||
    (' ' ≤ c && c ≤ '~') || ('\u00a0' ≤ c && c != '\ufffe' && c != '\uffff')

def isBreak (c : Char) : Bool :=
  c == '\n' || c == '\u2028' || c == '\u2029'

def isBlank (c : Char) : Bool :=
  c == ' ' || c == '\t'

/-- A character of a directive's, a tag handle's or an anchor's name. -/
def isWordChar (c : Char) : Bool :=
  c.isAlphanum || c == '_' || c == '-'

/-- Whether a text is at its end or goes on with a blank or a line break. -/
def atBlankOrEnd : List Char → Bool
  | [] => true
  | c :: _ => isBlank c || isBreak c

def atLineEnd : List Char → Bool
  | [] => true
  | c :: _ => isBreak c

def atDocumentMark : List Char → Bool
  | '-' :: '-' :: '-' :: rest => atBlankOrEnd rest
  | '.' :: '.' :: '.' :: rest => atBlankOrEnd rest
  | _ => false

/-- The text with every line break as a line feed, separators apart. -/
def unifyBreaks : List Char → List Char
  | [] => []
  | '\r' :: '\n' :: rest => '\n' :: unifyBreaks rest
  | c :: rest => (if c = '\r' ∨ c = '\u0085' then '\n' else c) :: unifyBreaks rest

def dropByteOrderMark : List Char → List Char
  | '\ufeff' :: rest => rest
  | cs => cs

/-- A text made ready for reading, unless a character of it is refused. -/
def readable? (text : String) : Option (List Char) :=
  if text.toList.all isAllowed then some (unifyBreaks (dropByteOrderMark text.toList)) else none

/-! ## Positions -/

/-- A place in a text. Both numbers start at zero. -/
structure Position where
  line : Nat
  column : Nat
  deriving DecidableEq, Repr

namespace Position

def start : Position := ⟨0, 0⟩

/-- The place so many characters further on the same line. -/
def skip (p : Position) (n : Nat) : Position := { p with column := p.column + n }

def nextLine (p : Position) : Position := ⟨p.line + 1, 0⟩

end Position

/-- The text that is still to be read, and where it starts. -/
structure Cursor where
  rest : List Char
  position : Position

namespace Cursor

def column (c : Cursor) : Nat := c.position.column

def skip (c : Cursor) (n : Nat) : Cursor :=
  ⟨c.rest.drop n, c.position.skip n⟩

/-- Goes on to a later place of the line, given the text there. -/
def skipTo (c : Cursor) (rest : List Char) : Cursor :=
  ⟨rest, c.position.skip (c.rest.length - rest.length)⟩

/-- The characters up to the first that is not of a class, and the place there. No line break may
be of the class. -/
def takeWhile (c : Cursor) (p : Char → Bool) : List Char × Cursor :=
  (c.rest.takeWhile p, c.skipTo (c.rest.dropWhile p))

/-- Goes on behind the line break that the text starts with, if it does. -/
def skipBreak (c : Cursor) : Cursor :=
  match c.rest with
  | b :: rest => if isBreak b then ⟨rest, c.position.nextLine⟩ else c
  | [] => c

/-- Goes on behind blanks and a comment to the end of the line. Anything else there is a fault. -/
def finishLine? (c : Cursor) : Option Cursor :=
  let c := (c.takeWhile isBlank).2
  let c := if c.rest.head? = some '#' then (c.takeWhile fun x => !isBreak x).2 else c
  if atLineEnd c.rest then some c.skipBreak else none

end Cursor

end StatusLookup.Yaml
