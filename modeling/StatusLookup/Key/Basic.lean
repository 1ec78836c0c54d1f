/-!
# Store keys

A key is a text of segments between slashes. Cleaning a key resolves it lexically, as a path is
resolved: empty segments and single dots go, and a double dot takes away the segment before it.
What cannot be taken away stays in front of a relative key and vanishes at the root of a rooted
one. Two keys that lead to the same place by this reading have the same clean form.
-/

namespace StatusLookup.Key

/-- What stands between the slashes of a key. -/
def segments (key : String) : List String :=
  (key.toList.splitOn '/').map String.ofList

def ofSegments (segments : List String) : String :=
  "/".intercalate segments

def isRooted (key : String) : Bool :=
  key.toList.head? == some '/'

/-- A segment that stands for itself: neither empty, nor dots with a meaning of their own. -/
def IsName (segment : String) : Prop :=
  segment ≠ "" ∧ segment ≠ "." ∧ segment ≠ ".." ∧ '/' ∉ segment.toList

instance (segment : String) : Decidable (IsName segment) :=
  inferInstanceAs (Decidable (_ ∧ _ ∧ _ ∧ _))

/-- One segment of resolution. The stack holds what is left so far, the last segment first. -/
def resolveStep (rooted : Bool) (stack : List String) (segment : String) : List String :=
  if segment = "" ∨ segment = "." then stack
  else if segment = ".." then
    match stack with
    | [] => if rooted then [] else [".."]
    | top :: below =>
      if top ≠ ".." then below else if rooted then stack else ".." :: stack
  else segment :: stack

/-- The segments that are left of a list of segments. -/
def resolve (rooted : Bool) (segments : List String) : List String :=
  (segments.foldl (resolveStep rooted) []).reverse

/-- The clean form of a key. Nothing left is the root or, for a relative key, a single dot. -/
def clean (key : String) : String :=
  let body := ofSegments (resolve (isRooted key) (segments key))
  if isRooted key then "/" ++ body
  else if body = "" then "."
  else body

/-- Joins parts by slashes, leaving out the empty ones, and cleans the result. -/
def join (parts : List String) : String :=
  let joined := ofSegments (parts.filter fun part => part ≠ "")
  if joined = "" then "" else clean joined

end StatusLookup.Key
