import StatusLookup.Yaml.Token

/-!
# The structure of a YAML text

Events are the nodes of a document in the order of the text: a scalar, an alias, or the beginning
or end of a collection. They follow from the tokens with one token of lookahead. What is expected
is a stack of goals; each token settles goals from the top until one of them takes it.

Only the first document of a text is of interest. Events never fail as a whole: they end where the
tokens end or stop making sense.
-/

namespace StatusLookup.Yaml

/-- An event. Anchors and aliases are told apart by `α`. -/
inductive Event (α : Type) where
  | scalar (anchor : Option α) (tag : Option Tag) (text : String) (isPlain : Bool)
  | aliasTo (anchor : α)
  | sequenceStart (anchor : Option α) (tag : Option Tag)
  | sequenceEnd
  | mappingStart (anchor : Option α) (tag : Option Tag)
  | mappingEnd

namespace Event

/-- What stands for a node that is not written. -/
def empty {α : Type} : Event α := scalar none none "" true

end Event

/-- The anchor and the tag in front of a node. -/
structure Properties where
  anchor : Option String
  tag : Option Tag

namespace Properties

def none : Properties := ⟨.none, .none⟩

def isEmpty (p : Properties) : Bool :=
  p.anchor.isNone && p.tag.isNone

end Properties

/-- What is expected next. -/
inductive Goal where
  /-- A node with some properties. In a block it may be a block collection, and as part of a
  mapping a sequence whose dashes are not indented. -/
  | node (inBlock inMapping : Bool) (properties : Properties)
  /-- The next dash of a sequence. -/
  | blockItems
  /-- The item after a dash. -/
  | blockItem
  /-- The next dash of a sequence whose dashes are not indented. -/
  | looseItems
  | looseItem
  /-- The next key of a mapping. -/
  | blockKeys
  /-- The key after its indicator. -/
  | blockKey
  /-- The colon after a key. -/
  | blockColon
  /-- The value after a colon. -/
  | blockValue
  /-- The comma after an item. -/
  | flowItems
  /-- The item after a comma or at the beginning. -/
  | flowItem
  /-- The key of a mapping with one entry, written as an item. -/
  | pairKey
  | pairColon
  | pairValue
  | pairEnd
  /-- The comma after an entry. -/
  | flowKeys
  /-- The entry after a comma or at the beginning. -/
  | flowEntry
  | flowKey
  | flowColon
  | flowValue
  /-- The value of a key that no colon follows. -/
  | flowNoValue
  /-- What comes after the mark of a document. -/
  | content
  /-- What comes after a document. -/
  | finish

/-- What a token yields: events, and what is expected after it unless it is a fault. -/
structure Settled where
  events : List (Event String)
  goals : Option (List Goal)

namespace Settled

def fault : Settled := ⟨[], none⟩

def expect (goals : List Goal) : Settled := ⟨[], some goals⟩

def after (events : List (Event String)) (s : Settled) : Settled :=
  ⟨events ++ s.events, s.goals⟩

end Settled

namespace Goal

/-- The tag of a scalar that is written. The bare exclamation mark is none. -/
def scalarTag (tag : Option Tag) : Option Tag :=
  if tag = some (Utf8.encode "!") then none else tag

/-- A node beginning with a token, if one can. -/
def begin? (handles : TagHandles) (inBlock inMapping : Bool) (p : Properties)
    (goals : List Goal) : Token → Option Settled
  | .aliasTo name => if p.isEmpty then some ⟨[.aliasTo name], goals⟩ else none
  | .anchor name =>
    if p.anchor.isNone then
      some (.expect (node inBlock inMapping { p with anchor := some name } :: goals))
    else none
  | .tag name =>
    if p.tag.isNone then
      match handles.resolve? name with
      | some tag => some (.expect (node inBlock inMapping { p with tag := some tag } :: goals))
      | none => some .fault
    else none
  | .scalar text isPlain =>
    some ⟨[.scalar p.anchor (scalarTag p.tag) text isPlain], goals⟩
  | .flowSequenceStart => some ⟨[.sequenceStart p.anchor p.tag], flowItem :: goals⟩
  | .flowMappingStart => some ⟨[.mappingStart p.anchor p.tag], flowEntry :: goals⟩
  | .blockSequenceStart =>
    if inBlock then some ⟨[.sequenceStart p.anchor p.tag], blockItems :: goals⟩ else none
  | .blockMappingStart =>
    if inBlock then some ⟨[.mappingStart p.anchor p.tag], blockKeys :: goals⟩ else none
  | .blockEntry =>
    if inMapping then some ⟨[.sequenceStart p.anchor p.tag], looseItem :: goals⟩ else none
  | _ => none

/-- A node without properties so far. -/
def beginNode (handles : TagHandles) (inBlock inMapping : Bool) (goals : List Goal) (t : Token) :
    Settled :=
  (begin? handles inBlock inMapping .none goals t).getD .fault

def settleBlockItems (goals : List Goal) : Token → Settled
  | .blockEntry => .expect (blockItem :: goals)
  | .blockEnd => ⟨[.sequenceEnd], goals⟩
  | _ => .fault

def settleBlockKeys (goals : List Goal) : Token → Settled
  | .key => .expect (blockKey :: goals)
  | .blockEnd => ⟨[.mappingEnd], goals⟩
  | _ => .fault

def settleBlockColon (goals : List Goal) : Token → Settled
  | .value => .expect (blockValue :: goals)
  | t => (settleBlockKeys goals t).after [.empty]

def settleFlowItems (goals : List Goal) : Token → Settled
  | .flowEntry => .expect (flowItem :: goals)
  | .flowSequenceEnd => ⟨[.sequenceEnd], goals⟩
  | _ => .fault

def settleFlowKeys (goals : List Goal) : Token → Settled
  | .flowEntry => .expect (flowEntry :: goals)
  | .flowMappingEnd => ⟨[.mappingEnd], goals⟩
  | _ => .fault

def settleFlowColon (goals : List Goal) : Token → Settled
  | .value => .expect (flowValue :: goals)
  | t => (settleFlowKeys goals t).after [.empty]

def settleFinish (goals : List Goal) : Token → Settled
  | .documentEnd => .expect (finish :: goals)
  | .streamEnd => .expect goals
  | _ => .fault

/-- Settles goals from the top until one of them takes a token. -/
def settle (handles : TagHandles) : List Goal → Token → Settled
  | [], _ => .fault
  | node inBlock inMapping p :: goals, t =>
    match begin? handles inBlock inMapping p goals t with
    | some s => s
    | none =>
      if p.isEmpty then .fault
      else (settle handles goals t).after [.scalar p.anchor p.tag "" true]
  | blockItems :: goals, t => settleBlockItems goals t
  | blockItem :: goals, t =>
    match t with
    | .blockEntry | .blockEnd => (settleBlockItems goals t).after [.empty]
    | t => beginNode handles true false (blockItems :: goals) t
  | looseItems :: goals, t =>
    match t with
    | .blockEntry => .expect (looseItem :: goals)
    | t => (settle handles goals t).after [.sequenceEnd]
  | looseItem :: goals, t =>
    match t with
    | .blockEntry => ⟨[.empty], looseItem :: goals⟩
    | .key | .value | .blockEnd => (settle handles goals t).after [.empty, .sequenceEnd]
    | t => beginNode handles true false (looseItems :: goals) t
  | blockKeys :: goals, t => settleBlockKeys goals t
  | blockKey :: goals, t =>
    match t with
    | .key | .value | .blockEnd => (settleBlockColon goals t).after [.empty]
    | t => beginNode handles true true (blockColon :: goals) t
  | blockColon :: goals, t => settleBlockColon goals t
  | blockValue :: goals, t =>
    match t with
    | .key | .value | .blockEnd => (settleBlockKeys goals t).after [.empty]
    | t => beginNode handles true true (blockKeys :: goals) t
  | flowItems :: goals, t => settleFlowItems goals t
  | flowItem :: goals, t =>
    match t with
    | .flowSequenceEnd => settleFlowItems goals t
    | .key => ⟨[.mappingStart none none], pairKey :: goals⟩
    | t => beginNode handles false false (flowItems :: goals) t
  | pairKey :: goals, t =>
    match t with
    | .value | .flowEntry | .flowSequenceEnd => ⟨[.empty], pairColon :: goals⟩
    | t => beginNode handles false false (pairColon :: goals) t
  | pairColon :: goals, t =>
    match t with
    | .value => .expect (pairValue :: goals)
    | t => (settleFlowItems goals t).after [.empty, .mappingEnd]
  | pairValue :: goals, t =>
    match t with
    | .flowEntry | .flowSequenceEnd => (settleFlowItems goals t).after [.empty, .mappingEnd]
    | t => beginNode handles false false (pairEnd :: goals) t
  | pairEnd :: goals, t => (settleFlowItems goals t).after [.mappingEnd]
  | flowKeys :: goals, t => settleFlowKeys goals t
  | flowEntry :: goals, t =>
    match t with
    | .flowMappingEnd => settleFlowKeys goals t
    | .key => .expect (flowKey :: goals)
    | t => beginNode handles false false (flowNoValue :: goals) t
  | flowKey :: goals, t =>
    match t with
    | .value | .flowEntry | .flowMappingEnd => (settleFlowColon goals t).after [.empty]
    | t => beginNode handles false false (flowColon :: goals) t
  | flowColon :: goals, t => settleFlowColon goals t
  | flowValue :: goals, t =>
    match t with
    | .flowEntry | .flowMappingEnd => (settleFlowKeys goals t).after [.empty]
    | t => beginNode handles false false (flowKeys :: goals) t
  | flowNoValue :: goals, t => (settleFlowKeys goals t).after [.empty]
  | content :: goals, t =>
    match t with
    | .directive _ | .documentStart | .documentEnd | .streamEnd =>
      (settleFinish goals t).after [.empty]
    | t => beginNode handles true false (finish :: goals) t
  | finish :: goals, t => settleFinish goals t

end Goal

/-- The events of a document. They are complete if the text ends after it. -/
structure Events (α : Type) where
  events : List (Event α)
  isComplete : Bool

namespace Events

/-- The events of the tokens of a document, given what is expected. -/
def ofTokensFrom (handles : TagHandles) : List Goal → List Token → Events String
  | [], _ => ⟨[], true⟩
  | _ :: _, [] => ⟨[], false⟩
  | goal :: goals, t :: ts =>
    match Goal.settle handles (goal :: goals) t with
    | ⟨events, some goals⟩ =>
      let rest := ofTokensFrom handles goals ts
      ⟨events ++ rest.events, rest.isComplete⟩
    | ⟨events, none⟩ => ⟨events, false⟩

/-- What the directives in front of a document have said. -/
structure Prologue where
  hasVersion : Bool
  handles : TagHandles

namespace Prologue

def start : Prologue := ⟨false, []⟩

/-- One more directive. The version and each handle may be given once. -/
def add? (p : Prologue) : Directive → Option Prologue
  | .version major minor =>
    if p.hasVersion ∨ major ≠ 1 ∨ (minor ≠ 1 ∧ minor ≠ 2) then none
    else some { p with hasVersion := true }
  | .handle name meaning =>
    if (p.handles.lookup name).isSome then none
    else some { p with handles := p.handles ++ [(name, meaning)] }

end Prologue

/-- The events of the document that directives stand in front of. -/
def ofTokensAfter (p : Prologue) : List Token → Events String
  | .directive d :: ts =>
    match p.add? d with
    | some p => ofTokensAfter p ts
    | none => ⟨[], false⟩
  | .documentStart :: ts => ofTokensFrom (p.handles ++ TagHandles.standard) [.content] ts
  | _ => ⟨[], false⟩

/-- The events of the first document. Without directives it needs no mark, and a text may have no
document, which is read as one with nothing written in it. -/
def ofTokens : List Token → Events String
  | [.streamEnd] => ⟨[.empty], true⟩
  | ts@(.directive _ :: _) | ts@(.documentStart :: _) => ofTokensAfter .start ts
  | ts => ofTokensFrom TagHandles.standard [.node true false .none, .finish] ts

end Events

end StatusLookup.Yaml
