import StatusLookup.Yaml.Event

/-!
# Nodes

A node is a scalar, an alias, or a collection of nodes; a mapping keeps its entries in the order
of the text, repeats included. Where the events end early the node has a `cut`, and what stands
before it can still be looked at.
-/

namespace StatusLookup.Yaml

/-- A node. An alias gives the number of an anchor. -/
inductive Node where
  | scalar (tag : Option Tag) (text : String) (isPlain : Bool)
  | sequence (tag : Option Tag) (items : List Node)
  | mapping (tag : Option Tag) (entries : List (Node × Node))
  | aliasTo (anchor : Nat)
  /-- The text is no YAML from here on. -/
  | cut

/-- A collection that has begun, with its parts so far, the last one first. -/
inductive Frame where
  | items (tag : Option Tag) (done : List Node)
  | entries (tag : Option Tag) (done : List (Node × Node)) (key : Option Node)

namespace Frame

/-- One more part of a collection. -/
def add (n : Node) : Frame → Frame
  | items tag done => items tag (n :: done)
  | entries tag done none => entries tag done (some n)
  | entries tag done (some key) => entries tag ((key, n) :: done) none

/-- The collection. A key without a value is cut off. -/
def close : Frame → Node
  | items tag done => .sequence tag done.reverse
  | entries tag done none => .mapping tag done.reverse
  | entries tag done (some key) => .mapping tag ((key, .cut) :: done).reverse

end Frame

namespace Node

def closeAll (n : Node) (frames : List Frame) : Node :=
  frames.foldl (fun n frame => (frame.add n).close) n

/-- The first node of a list of events, inside collections that have begun. -/
def ofEventsIn : List Frame → List (Event Nat) → Node
  | frames, [] => cut.closeAll frames
  | frames, event :: events =>
    let go (frames : List Frame) (n : Node) : Node :=
      match frames with
      | [] => n
      | frame :: frames => ofEventsIn (frame.add n :: frames) events
    match event with
    | .scalar _ tag text isPlain => go frames (scalar tag text isPlain)
    | .aliasTo anchor => go frames (aliasTo anchor)
    | .sequenceStart _ tag => ofEventsIn (.items tag [] :: frames) events
    | .mappingStart _ tag => ofEventsIn (.entries tag [] none :: frames) events
    | .sequenceEnd | .mappingEnd =>
      match frames with
      | [] => cut
      | frame :: frames => go frames frame.close

def ofEvents (events : List (Event Nat)) : Node :=
  ofEventsIn [] events

mutual

def isWhole : Node → Bool
  | scalar _ _ _ => true
  | sequence _ items => areWhole items
  | mapping _ entries => areEntriesWhole entries
  | aliasTo _ => true
  | cut => false

def areWhole : List Node → Bool
  | [] => true
  | n :: ns => isWhole n && areWhole ns

def areEntriesWhole : List (Node × Node) → Bool
  | [] => true
  | (key, value) :: entries => isWhole key && isWhole value && areEntriesWhole entries

end

end Node

end StatusLookup.Yaml
