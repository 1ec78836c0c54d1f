/-!
# Path texts

A path is kept as it was written; nothing here looks at a file system. Joining puts one slash
between two paths, and the parent of a path is what is left when its last component goes.
-/

namespace StatusLookup.Path

def isAbsolute (path : String) : Bool :=
  path.toList.head? == some '/'

/-- A path below another. An absolute path stands for itself whatever it is joined to. -/
def join (base path : String) : String :=
  if isAbsolute path then path
  else if base = "" ∨ base.toList.getLast? = some '/' then base ++ path
  else base ++ "/" ++ path

/-- Drops the empty and single-dot components at the end of a path, given last first. The first
component of the path stays: it is the root or, as a single dot, the current directory. -/
def dropSilent : List String → List String
  | component :: before :: rest =>
    if component = "" ∨ component = "." then dropSilent (before :: rest)
    else component :: before :: rest
  | components => components

/-- The path without its last component and the slashes and single dots before it. Neither the
root nor the empty path has a parent. -/
def parent? (path : String) : Option String :=
  let components := dropSilent ((path.toList.splitOn '/').map String.ofList).reverse
  match components with
  | [] | [""] => none
  | [_] => some ""
  | _ :: before =>
    match dropSilent before with
    | [""] => some "/"
    | left => some ("/".intercalate left.reverse)

end StatusLookup.Path
