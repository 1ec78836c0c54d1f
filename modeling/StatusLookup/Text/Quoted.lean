import StatusLookup.Text.Joining
import StatusLookup.Text.Printable

/-!
# Quoted text

Messages show a value that came from outside between double quotes, with every character that
would not show as itself written as an escape. A quoted text is therefore one line, and no two
values look alike.
-/

namespace StatusLookup.Text

/-- A code point as `\u` and its hexadecimal digits in braces. -/
def codePointEscape (c : Char) : List Char :=
  ['\\', 'u', '{'] ++ Nat.toDigits 16 c.toNat ++ ['}']

/-- How a character is written between quotes. A mark that would join the character before it is
escaped as well. -/
def quotedChar (c : Char) : List Char :=
  match c with
  | '\x00' => ['\\', '0']
  | '\t' => ['\\', 't']
  | '\r' => ['\\', 'r']
  | '\n' => ['\\', 'n']
  | '"' => ['\\', '"']
  | '\\' => ['\\', '\\']
  | c => if isJoining c || !isPrintable c then codePointEscape c else [c]

/-- The text between double quotes, escaped. -/
def quoted (s : String) : String :=
  String.ofList ('"' :: s.toList.flatMap quotedChar ++ ['"'])

end StatusLookup.Text
