import StatusLookup.Yaml.Scalar.Block
import StatusLookup.Yaml.Scalar.Plain
import StatusLookup.Yaml.Scalar.Quoted
import StatusLookup.Yaml.Token

/-!
# From a text to its tokens

The text is read from left to right with the columns of the block collections that are open. That
something was the key of a mapping is seen only at the colon behind it, so each place where a key
may have begun is kept among the tokens until then.

Tokens never fail as a whole. Where the text stops being YAML they end without the token for the
end of the text, and the last of them may be missing: those after a place whose key was still
undecided.
-/

namespace StatusLookup.Yaml

/-- A place where a key may have begun. A required key must turn out to be one. -/
structure KeyCandidate where
  position : Position
  required : Bool

/-- A token, or a place where a key may have begun. -/
inductive Piece where
  | token (t : Token)
  | place (p : Position)

namespace Piece

def token? : Piece → Option Token
  | token t => some t
  | place _ => none

/-- Whether the piece is the place of a key. -/
def isAt (p : Position) : Piece → Bool
  | token _ => false
  | place q => q == p

end Piece

/-- What is known in the middle of a text. -/
structure Scan where
  cursor : Cursor
  /-- The columns of the open block collections, the innermost first. -/
  columns : List Nat
  /-- The key that may have begun in the innermost collection. -/
  candidate : Option KeyCandidate
  /-- The keys that may have begun around each open flow collection, the innermost first. -/
  outer : List (Option KeyCandidate)
  /-- Whether a key may begin here. -/
  keyAllowed : Bool
  /-- What has been read, the last piece first. -/
  pieces : List Piece

namespace Scan

def start (cs : List Char) : Scan :=
  ⟨⟨cs, .start⟩, [], none, [], true, []⟩

def inFlow (s : Scan) : Bool :=
  !s.outer.isEmpty

def column (s : Scan) : Nat :=
  s.cursor.column

def emit (s : Scan) (t : Token) : Scan :=
  { s with pieces := .token t :: s.pieces }

def skip (s : Scan) (n : Nat) : Scan :=
  { s with cursor := s.cursor.skip n }

def allowKey (s : Scan) (allowed : Bool) : Scan :=
  { s with keyAllowed := allowed }

/-- The column at which lines of the innermost block collection must be indented more. -/
def leastIndent (s : Scan) : Nat :=
  match s.columns with
  | column :: _ => column + 1
  | [] => 0

/-! ## Keys -/

/-- Gives up the key that may have begun. -/
def dropKey? (s : Scan) : Option Scan :=
  match s.candidate with
  | some ⟨_, true⟩ => none
  | _ => some { s with candidate := none }

/-- Whether a key that began at a place can no longer end here: it is on one line and not too
long. -/
def isStale (here : Position) (candidate : KeyCandidate) : Bool :=
  candidate.position.line < here.line || candidate.position.column + 1024 < here.column

/-- The candidate, unless it is stale. -/
def freshen? (here : Position) : Option KeyCandidate → Option (Option KeyCandidate)
  | none => some none
  | some candidate =>
    if isStale here candidate then
      if candidate.required then none else some none
    else some (some candidate)

/-- Gives up all keys that are stale here. -/
def dropStale? (s : Scan) : Option Scan := do
  let candidate ← freshen? s.cursor.position s.candidate
  let outer ← s.outer.mapM (freshen? s.cursor.position)
  return { s with candidate := candidate, outer := outer }

/-- Notes that a key may begin here. At the column of a block mapping nothing else may. -/
def noteKey? (s : Scan) : Option Scan := do
  if s.keyAllowed then
    let required := !s.inFlow && s.columns.head? == some s.column
    let s ← s.dropKey?
    return { s with
      candidate := some ⟨s.cursor.position, required⟩
      pieces := .place s.cursor.position :: s.pieces }
  else return s

/-! ## Block collections -/

/-- Opens a block collection at a column, unless one is open there. -/
def openBlock (s : Scan) (t : Token) : Scan :=
  if !s.inFlow ∧ s.leastIndent ≤ s.column then
    { s.emit t with columns := s.column :: s.columns }
  else s

/-- Closes the block collections at columns of a kind. -/
def closeBlocks (s : Scan) (closes : Nat → Bool) : Scan :=
  if s.inFlow then s
  else
    let closed := s.columns.takeWhile closes
    { s with
      columns := s.columns.dropWhile closes
      pieces := closed.map (fun _ => .token .blockEnd) ++ s.pieces }

/-- Makes a candidate a key. In a block, a mapping begins with it unless one is open at its
column. -/
def settleKey (s : Scan) (candidate : KeyCandidate) : Scan :=
  let opens := !s.inFlow && s.leastIndent ≤ candidate.position.column
  let tokens := if opens then [.key, .blockMappingStart] else [.key]
  { s with
    candidate := none
    columns := if opens then candidate.position.column :: s.columns else s.columns
    pieces := s.pieces.flatMap fun piece =>
      if piece.isAt candidate.position then tokens.map .token else [piece] }

/-! ## Between tokens -/

/-- Goes on to the next token over blanks, comments and line breaks. In a block, a tab does not
count as a blank where a key may begin, and after a line break a key may begin. -/
def skipGap (inFlow : Bool) (keyAllowed comment : Bool) (p : Position) :
    List Char → Bool × Cursor
  | [] => (keyAllowed, ⟨[], p⟩)
  | c :: cs =>
    if isBreak c then skipGap inFlow (keyAllowed || !inFlow) false p.nextLine cs
    else if comment ∨ c = '#' then skipGap inFlow keyAllowed true (p.skip 1) cs
    else if c = ' ' ∨ (c = '\t' ∧ (inFlow ∨ !keyAllowed)) ∨ (c = '\ufeff' ∧ p.column = 0) then
      skipGap inFlow keyAllowed false (p.skip 1) cs
    else (keyAllowed, ⟨c :: cs, p⟩)

def toNextToken (s : Scan) : Scan :=
  let (keyAllowed, cursor) :=
    skipGap s.inFlow s.keyAllowed false s.cursor.position s.cursor.rest
  { s with keyAllowed := keyAllowed, cursor := cursor }

/-! ## Tokens -/

/-- The end of the text, which closes all blocks. -/
def readEnd? (s : Scan) : Option Scan := do
  let s ← (s.closeBlocks fun _ => true).dropKey?
  return (s.allowKey false).emit .streamEnd

def readDirective? (s : Scan) : Option Scan := do
  let s ← (s.closeBlocks fun _ => true).dropKey?
  let (d, rest) ← readDirective (s.cursor.skip 1).rest
  let cursor ← (s.cursor.skipTo rest).finishLine?
  return { (s.allowKey false).emit (.directive d) with cursor := cursor }

def readMark? (s : Scan) (t : Token) : Option Scan := do
  let s ← (s.closeBlocks fun _ => true).dropKey?
  return ((s.allowKey false).emit t).skip 3

/-- The beginning of a flow collection, which may itself be a key. -/
def openFlow? (s : Scan) (t : Token) : Option Scan := do
  let s ← s.noteKey?
  return (({ s with candidate := none, outer := s.candidate :: s.outer }.allowKey true).emit t).skip 1

def closeFlow? (s : Scan) (t : Token) : Option Scan := do
  let s ← s.dropKey?
  let s := match s.outer with
    | candidate :: outer => { s with candidate := candidate, outer := outer }
    | [] => s
  return ((s.allowKey false).emit t).skip 1

def readFlowEntry? (s : Scan) : Option Scan := do
  let s ← s.dropKey?
  return ((s.allowKey true).emit .flowEntry).skip 1

/-- A dash. In a block it must stand where a key might. -/
def readBlockEntry? (s : Scan) : Option Scan := do
  if s.inFlow ∨ s.keyAllowed then
    let s ← (s.openBlock .blockSequenceStart).dropKey?
    return ((s.allowKey true).emit .blockEntry).skip 1
  else none

/-- A question mark in front of a key. -/
def readKey? (s : Scan) : Option Scan := do
  if s.inFlow ∨ s.keyAllowed then
    let s ← (s.openBlock .blockMappingStart).dropKey?
    return ((s.allowKey !s.inFlow).emit .key).skip 1
  else none

/-- A colon. If a key has begun, this is where it ends. -/
def readValue? (s : Scan) : Option Scan :=
  match s.candidate with
  | some candidate => some ((((s.settleKey candidate).allowKey false).emit .value).skip 1)
  | none =>
    if s.inFlow ∨ s.keyAllowed then
      some ((((s.openBlock .blockMappingStart).allowKey !s.inFlow).emit .value).skip 1)
    else none

/-- Whether an anchor's name may end before this text. -/
def endsName : List Char → Bool
  | [] => true
  | c :: _ => isBlank c || isBreak c || ['?', ':', ',', ']', '}', '%', '@', '\x60'].contains c

/-- An anchor or an alias behind its indicator. -/
def readName? (s : Scan) (t : String → Token) : Option Scan := do
  let s ← s.noteKey?
  let (name, cursor) := (s.cursor.skip 1).takeWhile isWordChar
  if name.isEmpty || !endsName cursor.rest then none
  else return { (s.allowKey false).emit (t (String.ofList name)) with cursor := cursor }

def readTag? (s : Scan) : Option Scan := do
  let s ← s.noteKey?
  let (name, rest) ← readTagName (s.cursor.skip 1).rest
  if atBlankOrEnd rest || (s.inFlow && rest.head? == some ',') then
    return { (s.allowKey false).emit (.tag name) with cursor := s.cursor.skipTo rest }
  else none

def readBlockScalar? (s : Scan) (folded : Bool) : Option Scan := do
  let s ← s.dropKey?
  let (text, cursor) ← readBlockScalar folded s.leastIndent (s.cursor.skip 1)
  return { (s.allowKey true).emit (.scalar (String.ofList text) false) with cursor := cursor }

def readQuoted? (s : Scan)
    (reader : List Char → Fold → Position → List Char → Option (List Char × Cursor)) :
    Option Scan := do
  let s ← s.noteKey?
  let inside := s.cursor.skip 1
  let (text, cursor) ← reader [] .empty inside.position inside.rest
  return { (s.allowKey false).emit (.scalar (String.ofList text) false) with cursor := cursor }

/-- A plain scalar. If it ends with a line break, a key may begin after it. -/
def readPlain? (s : Scan) : Option Scan := do
  let s ← s.noteKey?
  let scalar ← readPlain s.inFlow s.leastIndent [] .empty s.cursor.position s.cursor.rest
  return { (s.allowKey scalar.trailing.isBroken).emit
      (.scalar (String.ofList scalar.taken.reverse) true) with cursor := scalar.next }

def readToken? (s : Scan) : Option Scan :=
  match s.cursor.rest with
  | [] => s.readEnd?
  | c :: cs =>
    if s.column = 0 ∧ c = '%' then s.readDirective?
    else if s.column = 0 ∧ atDocumentMark (c :: cs) then
      s.readMark? (if c = '-' then .documentStart else .documentEnd)
    else
      match c with
      | '[' => s.openFlow? .flowSequenceStart
      | '{' => s.openFlow? .flowMappingStart
      | ']' => s.closeFlow? .flowSequenceEnd
      | '}' => s.closeFlow? .flowMappingEnd
      | ',' => s.readFlowEntry?
      | '-' => if atBlankOrEnd cs then s.readBlockEntry? else s.readPlain?
      | '?' => if s.inFlow || atBlankOrEnd cs then s.readKey? else s.readPlain?
      | ':' => if s.inFlow || atBlankOrEnd cs then s.readValue? else s.readPlain?
      | '*' => s.readName? .aliasTo
      | '&' => s.readName? .anchor
      | '!' => s.readTag?
      | '|' => if s.inFlow then none else s.readBlockScalar? false
      | '>' => if s.inFlow then none else s.readBlockScalar? true
      | '\'' => s.readQuoted? readSingleQuoted
      | '"' => s.readQuoted? readDoubleQuoted
      | '\t' | '%' | '@' | '\x60' => none
      | _ => s.readPlain?

def next? (s : Scan) : Option Scan := do
  let s ← s.toNextToken.dropStale?
  let column := s.column
  let s ← (s.closeBlocks fun open_ => column < open_).readToken?
  s.dropStale?

def isAtEnd (s : Scan) : Bool :=
  match s.pieces with
  | .token .streamEnd :: _ => true
  | _ => false

def tokens (s : Scan) : List Token :=
  (s.pieces.filterMap Piece.token?).reverse

/-- Whether a piece is the place of a key that is still undecided. -/
def isOpen (s : Scan) (piece : Piece) : Bool :=
  (s.candidate :: s.outer).any fun candidate =>
    candidate.any fun candidate => piece.isAt candidate.position

/-- The tokens before the first place whose key is still undecided. -/
def releasedTokens (s : Scan) : List Token :=
  (s.pieces.reverse.takeWhile fun piece => !s.isOpen piece).filterMap Piece.token?

/-- Reads all tokens in so many steps at most. -/
def run : Nat → Scan → List Token
  | 0, s => s.releasedTokens
  | steps + 1, s =>
    match s.next? with
    | none => s.releasedTokens
    | some s => if s.isAtEnd then s.tokens else run steps s

end Scan

/-- The tokens of a text. Each takes up at least one character, apart from the last. -/
def tokens (text : String) : List Token :=
  match readable? text with
  | none => []
  | some cs => (Scan.start cs).run (cs.length + 1)

end StatusLookup.Yaml
