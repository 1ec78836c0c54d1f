import StatusLookup.Data.Mismatch

/-!
# Errors in YAML documents

A document is either malformed or it does not have the wanted shape. Of what is said about it only
the part is modelled that the wanted shape decides: what was found instead, and at which place. What
a reader of YAML says about a malformed document is left out, and so are the line and the column
that it adds to either.
-/

namespace StatusLookup

/-- A step from a value down to a part of it. -/
inductive YamlStep where
  | key (name : String)
  | item (index : Nat)
  /-- The value of a key that is no scalar. -/
  | unnamed
  deriving DecidableEq

/-- A place in a document: the steps that lead to it, the last one first. -/
abbrev YamlPath := List YamlStep

namespace YamlPath

/-- Puts a dot behind a place, unless it is the whole document. -/
def dotted (text : Option String) : String :=
  text.elim "" (· ++ ".")

/-- The written form of a place. The whole document has none. -/
def text : YamlPath → Option String
  | [] => none
  | .key name :: above => some (dotted (text above) ++ name)
  | .item index :: above =>
    some ((text above).getD "." ++ "[" ++ toString index ++ "]")
  | .unnamed :: above => some (dotted (text above) ++ "?")

end YamlPath

inductive YamlError where
  | malformed
  | mismatch (path : YamlPath) (m : Mismatch)

namespace YamlError

/-- Nothing is called a unit value, and fractions are always written positionally. -/
def wording : Wording :=
  ⟨"unit value", ⟨none⟩⟩

/-- What was found in a document of another shape, after the place if that has a written form. It is
not all that is said about it: the line and the column are missing, and a malformed document has no
explanation here at all. -/
def explanation : YamlError → Option String
  | malformed => none
  | mismatch path m =>
    some (path.text.elim "" (· ++ ": ") ++ m.message wording)

end YamlError

end StatusLookup
