import StatusLookup.FileSystem.IoError
import StatusLookup.Text.Utf8

/-!
# Directory trees

A file system as a value: a tree of directories and files, without links. A path is walked one
component at a time from a place, which is a node together with the directories above it. An
empty component and a single dot stay where they are and a double dot goes up, but all of them
need a directory to start from.
-/

namespace StatusLookup

/-- A file with its content, or a directory with its entries. -/
inductive Tree where
  | file (content : Bytes)
  | directory (entries : List (String × Tree))

namespace Tree

def setEntry (name : String) (node : Tree) : List (String × Tree) → List (String × Tree)
  | [] => [(name, node)]
  | entry :: rest =>
    if entry.1 = name then (name, node) :: rest else entry :: setEntry name node rest

/-- Puts a node at the end of a path of names, making the directories on the way. A file on the
way is left as it is. -/
def put : Tree → List String → Tree → Tree
  | _, [], node => node
  | file content, _ :: _, _ => file content
  | directory entries, name :: names, node =>
    directory (setEntry name (put ((entries.lookup name).getD (directory [])) names node) entries)

/-- Makes a directory at the end of a path of names unless something is there. -/
def makeDirectory : Tree → List String → Tree
  | tree, [] => tree
  | file content, _ :: _ => file content
  | directory entries, name :: names =>
    directory
      (setEntry name (makeDirectory ((entries.lookup name).getD (directory [])) names) entries)

/-- Removes what is at the end of a path of names, with all that is below it. -/
def delete : Tree → List String → Tree
  | tree, [] => tree
  | file content, _ :: _ => file content
  | directory entries, [name] => directory (entries.filter fun entry => entry.1 ≠ name)
  | directory entries, name :: next :: names =>
    match entries.lookup name with
    | none => directory entries
    | some tree => directory (setEntry name (delete tree (next :: names)) entries)

end Tree

/-- A node of a tree with the directories above it, the nearest first. -/
structure Place where
  here : Tree
  above : List Tree

namespace Place

/-- The longest file name, in bytes. -/
def maxNameBytes : Nat := 255

/-- The place one component further. At the root a double dot stays at the root. -/
def step (place : Place) (component : String) : Except IoError Place :=
  match place.here with
  | .file _ => .error .notADirectory
  | .directory entries =>
    if component = "" ∨ component = "." then .ok place
    else if component = ".." then
      match place.above with
      | [] => .ok place
      | up :: above => .ok ⟨up, above⟩
    else if maxNameBytes < component.utf8ByteSize then .error .nameTooLong
    else
      match entries.lookup component with
      | none => .error .notFound
      | some node => .ok ⟨node, place.here :: place.above⟩

def walk (place : Place) (components : List String) : Except IoError Place :=
  components.foldlM step place

def root (place : Place) : Place :=
  ⟨place.above.getLast?.getD place.here, []⟩

/-- The longest path that can be looked up, in bytes, is one less. -/
def maxPathBytes : Nat := 4096

/-- The place a path leads to from here. The first component of an absolute path is empty, so it
is walked from the root like any other. -/
def find (place : Place) (path : String) : Except IoError Place :=
  if '\x00' ∈ path.toList then .error .nulInName
  else if maxPathBytes ≤ path.utf8ByteSize then .error .nameTooLong
  else if path = "" then .error .notFound
  else
    let start := if path.toList.head? = some '/' then place.root else place
    start.walk ((path.toList.splitOn '/').map String.ofList)

def readFile (place : Place) (path : String) : Except IoError Bytes :=
  match place.find path with
  | .error e => .error e
  | .ok ⟨.file content, _⟩ => .ok content
  | .ok ⟨.directory _, _⟩ => .error .isADirectory

def pathExists (place : Place) (path : String) : Bool :=
  (place.find path).isOk

end Place

end StatusLookup
