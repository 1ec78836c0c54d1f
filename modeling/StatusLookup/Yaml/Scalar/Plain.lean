import StatusLookup.Yaml.Scalar.Fold

/-!
# Plain scalars

A plain scalar has no quotes and ends where something else begins: a colon with a blank behind it,
a comment, an indicator of a flow collection, or a line that is not indented enough.
-/

namespace StatusLookup.Yaml

/-- What was read of a plain scalar: its characters, the last one first, what came after them, and
the place there. -/
structure PlainScalar where
  taken : List Char
  trailing : Fold
  next : Cursor

/-- Whether a plain scalar ends before this text, apart from blanks. -/
def endsPlain (inFlow : Bool) : List Char → Bool
  | ':' :: rest => atBlankOrEnd rest
  | c :: _ => inFlow && (c == ',' || c == '[' || c == ']' || c == '{' || c == '}')
  | [] => true

/-- Whether the character after a colon in a flow collection makes the colon a fault. -/
def refusesColon : List Char → Bool
  | c :: _ => c == ',' || c == '?' || c == '[' || c == ']' || c == '{' || c == '}'
  | [] => false

/-- Reads on in a plain scalar. After blanks it ends before a comment and before a mark between
documents; in a block it also ends on a line that is not indented enough. -/
def readPlain (inFlow : Bool) (indent : Nat) (taken : List Char) (fold : Fold) (p : Position) :
    List Char → Option PlainScalar
  | [] => some ⟨taken, fold, ⟨[], p⟩⟩
  | c :: cs =>
    if isBlank c then
      if c = '\t' ∧ fold.isBroken ∧ p.column < indent then none
      else readPlain inFlow indent taken (fold.addBlank c) (p.skip 1) cs
    else if isBreak c then
      readPlain inFlow indent taken (fold.addBreak c) p.nextLine cs
    else if !fold.isEmpty && ((!inFlow && p.column < indent) || c == '#' ||
        (p.column == 0 && atDocumentMark (c :: cs))) then
      some ⟨taken, fold, ⟨c :: cs, p⟩⟩
    else if inFlow && c == ':' && refusesColon cs then none
    else if endsPlain inFlow (c :: cs) then some ⟨taken, fold, ⟨c :: cs, p⟩⟩
    else readPlain inFlow indent (c :: fold.onto taken) .empty (p.skip 1) cs

end StatusLookup.Yaml
