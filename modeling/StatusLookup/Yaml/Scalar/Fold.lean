import StatusLookup.Yaml.Cursor

/-!
# Scalars over several lines

A scalar may go on over several lines. A single line break between two of its lines is read as a
space, and of several line breaks the first is dropped; the blanks around them do not count.
`Fold` holds what has been read since the last character that is neither blank nor line break.
-/

namespace StatusLookup.Yaml

/-- Blanks and line breaks, the last one first. -/
inductive Fold where
  /-- Blanks within a line. -/
  | blanks (cs : List Char)
  /-- Line breaks. The first one is missing when it was written with a backslash. -/
  | breaks (first : Option Char) (more : List Char)

namespace Fold

def empty : Fold := blanks []

def isEmpty : Fold → Bool
  | blanks [] => true
  | _ => false

def isBroken : Fold → Bool
  | blanks _ => false
  | breaks _ _ => true

/-- A blank counts only before the first line break. -/
def addBlank (c : Char) : Fold → Fold
  | blanks cs => blanks (c :: cs)
  | breaks first more => breaks first more

def addBreak (c : Char) : Fold → Fold
  | blanks _ => breaks (some c) []
  | breaks first more => breaks first (c :: more)

/-- What the blanks and line breaks are read as, in front of a text whose last character comes
first. -/
def onto (text : List Char) : Fold → List Char
  | blanks cs => cs ++ text
  | breaks (some '\n') [] => ' ' :: text
  | breaks (some '\n') more => more ++ text
  | breaks (some c) more => more ++ c :: text
  | breaks none more => more ++ text

end Fold

end StatusLookup.Yaml
