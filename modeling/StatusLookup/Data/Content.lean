/-!
# Values apart from their notation

A configuration value may be written in more than one notation. `Content` is what is left when the
notation is gone: nothing, a truth value, a number, a text, a list, or a list of entries in the
order in which they were written, repeats included.
-/

namespace StatusLookup

/-- A value, whatever it was written in. The value of a number that is not whole does not matter
to any reader. -/
inductive Content where
  | null
  | bool (b : Bool)
  | natural (n : Nat)
  | negative (n : Int)
  | real
  | text (s : String)
  | list (items : List Content)
  | map (entries : List (Content × Content))

namespace Content

def text? : Content → Option String
  | text s => some s
  | _ => none

end Content

end StatusLookup
