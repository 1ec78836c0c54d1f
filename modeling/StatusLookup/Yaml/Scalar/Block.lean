import StatusLookup.Yaml.Scalar.Fold

/-!
# Block scalars

A block scalar is made of whole lines that are indented alike. A header says whether its line
breaks are folded and which of the last ones it keeps, and it may give the indentation, which
otherwise is that of the first line that is not empty.
-/

namespace StatusLookup.Yaml

/-- Which line breaks at the end of a block scalar belong to it. -/
inductive Chomping where
  | strip
  | clip
  | keep
  deriving DecidableEq, Repr

/-- What stands behind the indicator of a block scalar. -/
structure BlockHeader where
  chomping : Chomping
  /-- The indentation of the lines, counted from that of the collection around them. -/
  indent : Option Nat
  /-- How many characters the header takes. -/
  width : Nat

/-- The number a digit writes, except zero. -/
def indentDigit? (c : Char) : Option Nat :=
  if '1' ≤ c ∧ c ≤ '9' then some (c.toNat - '0'.toNat) else none

def chompingOf? : Char → Option Chomping
  | '-' => some .strip
  | '+' => some .keep
  | _ => none

/-- The header that a text starts with: the chomping and the indentation, each at most once and in
either order. -/
def blockHeader (cs : List Char) : BlockHeader :=
  let first := cs.head?
  let second := (cs.drop 1).head?
  match first.bind chompingOf?, first.bind indentDigit? with
  | some chomping, _ =>
    match second.bind indentDigit? with
    | some n => ⟨chomping, some n, 2⟩
    | none => ⟨chomping, none, 1⟩
  | none, some n =>
    match second.bind chompingOf? with
    | some chomping => ⟨chomping, some n, 2⟩
    | none => ⟨.clip, some n, 1⟩
  | none, none => ⟨.clip, none, 0⟩

/-- What was read of a block scalar. -/
structure BlockLines where
  /-- The characters, the last one first, without the line breaks at the end. -/
  taken : List Char
  /-- The line break after the last line that is not empty. -/
  lineBreak : Option Char
  /-- The line breaks after that one, the last one first. -/
  emptyLines : List Char
  /-- Whether the last line that is not empty starts with a blank. -/
  startsBlank : Bool
  /-- The indentation of the lines, once it is known. -/
  indent : Option Nat
  /-- The widest line of blanks before it was known. -/
  widest : Nat

namespace BlockLines

/-- Before the first line. -/
def start (indent : Option Nat) : BlockLines :=
  ⟨[], none, [], false, indent, 0⟩

/-- Whether a column is left of the lines, as far as that is known. -/
def isMargin (b : BlockLines) (column : Nat) : Bool :=
  match b.indent with
  | some indent => column < indent
  | none => true

/-- The indentation that the first line, at a column, gives the others. It is at least `least`. -/
def settle (b : BlockLines) (least column : Nat) : BlockLines :=
  match b.indent with
  | some _ => b
  | none => { b with indent := some (max (max b.widest column) least) }

def addEmpty (b : BlockLines) (column : Nat) (c : Char) : BlockLines :=
  { b with emptyLines := c :: b.emptyLines, widest := max b.widest column }

/-- The start of a line that is not empty. In a folded scalar the line break before it is read as
a space, or dropped before more line breaks, unless one of the lines around it starts with a
blank. -/
def beginLine (b : BlockLines) (folded : Bool) (c : Char) : BlockLines :=
  let before :=
    if folded ∧ b.lineBreak = some '\n' ∧ !b.startsBlank ∧ !isBlank c then
      if b.emptyLines.isEmpty then ' ' :: b.taken else b.emptyLines ++ b.taken
    else b.emptyLines ++ b.lineBreak.toList ++ b.taken
  { b with
    taken := c :: before, lineBreak := none, emptyLines := [], startsBlank := isBlank c }

def text (b : BlockLines) (chomping : Chomping) : List Char :=
  match chomping with
  | .strip => b.taken.reverse
  | .clip => (b.lineBreak.toList ++ b.taken).reverse
  | .keep => (b.emptyLines ++ b.lineBreak.toList ++ b.taken).reverse

end BlockLines

/-- Reads on in a block scalar, inside a line or before one. A tab may not stand where the blanks
in front of the lines are. -/
def readBlock (folded : Bool) (least : Nat) (inLine : Bool) (b : BlockLines) (p : Position) :
    List Char → Option (BlockLines × Cursor)
  | [] => some (b, ⟨[], p⟩)
  | c :: cs =>
    if inLine then
      if isBreak c then
        readBlock folded least false { b with lineBreak := some c } p.nextLine cs
      else readBlock folded least true { b with taken := c :: b.taken } (p.skip 1) cs
    else if c = ' ' ∧ b.isMargin p.column then
      readBlock folded least false b (p.skip 1) cs
    else if c = '\t' ∧ b.isMargin p.column then none
    else if isBreak c then
      readBlock folded least false (b.addEmpty p.column c) p.nextLine cs
    else
      let b := b.settle least p.column
      if b.indent = some p.column then
        readBlock folded least true (b.beginLine folded c) (p.skip 1) cs
      else some (b, ⟨c :: cs, p⟩)

/-- Reads a block scalar from behind its indicator, in a collection whose lines are indented by at
least `least`. -/
def readBlockScalar (folded : Bool) (least : Nat) (c : Cursor) : Option (List Char × Cursor) := do
  let header := blockHeader c.rest
  let c ← (c.skip header.width).finishLine?
  let lines := BlockLines.start (header.indent.map (least - 1 + ·))
  let (lines, next) ← readBlock folded (max least 1) false lines c.position c.rest
  return (lines.text header.chomping, next)

end StatusLookup.Yaml
