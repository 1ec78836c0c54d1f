import StatusLookup.Text.Hexadecimal
import StatusLookup.Yaml.Scalar.Fold

/-!
# Quoted scalars

Between single quotes every character stands for itself, only a single quote is written twice.
Between double quotes a backslash starts an escape. In both, line breaks are folded, and a mark
between documents is a fault.
-/

namespace StatusLookup.Yaml

/-- Reads on behind the quote that opens a single-quoted scalar. A quote inside is written twice. -/
def readSingleQuoted (taken : List Char) (fold : Fold) (p : Position) :
    List Char → Option (List Char × Cursor)
  | [] => none
  | '\'' :: '\'' :: cs => readSingleQuoted ('\'' :: fold.onto taken) .empty (p.skip 2) cs
  | '\'' :: cs => some ((fold.onto taken).reverse, ⟨cs, p.skip 1⟩)
  | c :: cs =>
    if isBlank c then readSingleQuoted taken (fold.addBlank c) (p.skip 1) cs
    else if isBreak c then readSingleQuoted taken (fold.addBreak c) p.nextLine cs
    else if p.column = 0 ∧ atDocumentMark (c :: cs) then none
    else readSingleQuoted (c :: fold.onto taken) .empty (p.skip 1) cs

/-- The character whose code hexadecimal digits write. Surrogates and what is beyond the last
character have none. -/
def hexChar? (digits : List Char) : Option Char :=
  match Text.hexNumber? digits with
  | some n => if n.isValidChar then some (Char.ofNat n) else none
  | none => none

/-- The character that a backslash and one more character write. -/
def shortEscape? : Char → Option Char
  | '0' => some '\x00'
  | 'a' => some '\x07'
  | 'b' => some '\x08'
  | 't' | '\t' => some '\t'
  | 'n' => some '\n'
  | 'v' => some '\x0b'
  | 'f' => some '\x0c'
  | 'r' => some '\r'
  | 'e' => some '\x1b'
  | ' ' => some ' '
  | '"' => some '"'
  | '/' => some '/'
  | '\\' => some '\\'
  | 'N' => some '\u0085'
  | '_' => some '\u00a0'
  | 'L' => some '\u2028'
  | 'P' => some '\u2029'
  | _ => none

/-- Reads on behind the quote that opens a double-quoted scalar. A backslash before a line break
takes the line break away together with the blanks after it. -/
def readDoubleQuoted (taken : List Char) (fold : Fold) (p : Position) :
    List Char → Option (List Char × Cursor)
  | [] => none
  | '"' :: cs => some ((fold.onto taken).reverse, ⟨cs, p.skip 1⟩)
  | '\\' :: 'x' :: a :: b :: cs =>
    match hexChar? [a, b] with
    | some c => readDoubleQuoted (c :: fold.onto taken) .empty (p.skip 4) cs
    | none => none
  | '\\' :: 'u' :: a :: b :: c :: d :: cs =>
    match hexChar? [a, b, c, d] with
    | some c => readDoubleQuoted (c :: fold.onto taken) .empty (p.skip 6) cs
    | none => none
  | '\\' :: 'U' :: a :: b :: c :: d :: e :: f :: g :: h :: cs =>
    match hexChar? [a, b, c, d, e, f, g, h] with
    | some c => readDoubleQuoted (c :: fold.onto taken) .empty (p.skip 10) cs
    | none => none
  | '\\' :: e :: cs =>
    if isBreak e then readDoubleQuoted (fold.onto taken) (.breaks none []) p.nextLine cs
    else
      match shortEscape? e with
      | some c => readDoubleQuoted (c :: fold.onto taken) .empty (p.skip 2) cs
      | none => none
  | c :: cs =>
    if isBlank c then readDoubleQuoted taken (fold.addBlank c) (p.skip 1) cs
    else if isBreak c then readDoubleQuoted taken (fold.addBreak c) p.nextLine cs
    else if p.column = 0 ∧ atDocumentMark (c :: cs) then none
    else readDoubleQuoted (c :: fold.onto taken) .empty (p.skip 1) cs

end StatusLookup.Yaml
