import StatusLookup.Yaml.Node
import StatusLookup.Yaml.Tokens

/-!
# Documents

A document is a node together with what its aliases stand for. Anchors are numbered by how many
different names there were before; an alias has the number that its name has there, and stands for
the last node of that number. An alias without an anchor before it ends the document.
-/

namespace StatusLookup.Yaml

structure Document where
  root : Node
  /-- The nodes with an anchor, the last one first. -/
  anchored : List (Nat × Node)
  /-- How many events the document is made of. -/
  size : Nat
  /-- Whether the text ends after the document. -/
  isComplete : Bool

/-- The numbers of the anchors so far. -/
abbrev AnchorNumbers := List (String × Nat)

namespace AnchorNumbers

/-- The numbers with the next one given to a name, in place of the one it may have had. -/
def define (numbers : AnchorNumbers) (name : String) : AnchorNumbers :=
  (name, numbers.length) :: numbers.filter fun entry => entry.1 ≠ name

/-- A node's anchor with its number. -/
def number (numbers : AnchorNumbers) (name : Option String) : AnchorNumbers × Option Nat :=
  match name with
  | none => (numbers, none)
  | some name => (numbers.define name, some numbers.length)

end AnchorNumbers

/-- The events with numbers for anchors, up to an alias without an anchor. -/
def numberAnchors (numbers : AnchorNumbers) : List (Event String) → List (Event Nat)
  | [] => []
  | .scalar anchor tag text isPlain :: events =>
    let (numbers, anchor) := numbers.number anchor
    .scalar anchor tag text isPlain :: numberAnchors numbers events
  | .sequenceStart anchor tag :: events =>
    let (numbers, anchor) := numbers.number anchor
    .sequenceStart anchor tag :: numberAnchors numbers events
  | .mappingStart anchor tag :: events =>
    let (numbers, anchor) := numbers.number anchor
    .mappingStart anchor tag :: numberAnchors numbers events
  | .aliasTo name :: events =>
    match numbers.lookup name with
    | some anchor => .aliasTo anchor :: numberAnchors numbers events
    | none => []
  | .sequenceEnd :: events => .sequenceEnd :: numberAnchors numbers events
  | .mappingEnd :: events => .mappingEnd :: numberAnchors numbers events

def Event.anchor? {α : Type} : Event α → Option α
  | .scalar anchor _ _ _ | .sequenceStart anchor _ | .mappingStart anchor _ => anchor
  | _ => none

/-- The nodes with an anchor, the last one first, in front of those given. -/
def anchoredNodes (found : List (Nat × Node)) : List (Event Nat) → List (Nat × Node)
  | [] => found
  | event :: events =>
    match event.anchor? with
    | some anchor => anchoredNodes ((anchor, Node.ofEvents (event :: events)) :: found) events
    | none => anchoredNodes found events

namespace Document

def ofEvents (e : Events String) : Document :=
  let events := numberAnchors [] e.events
  { root := Node.ofEvents events
    anchored := anchoredNodes [] events
    size := events.length
    isComplete := e.isComplete && events.length == e.events.length }

def ofText (text : String) : Document :=
  ofEvents (Events.ofTokens (tokens text))

end Document

end StatusLookup.Yaml
