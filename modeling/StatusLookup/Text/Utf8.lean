/-!
# UTF-8

Decoding reads a byte string from left to right, one byte at a time, keeping only the character
that has begun. What it yields is a list with one place per character and one empty place per
maximal invalid part: a lead byte with as many of its continuation bytes as follow, or a byte that
can begin no character. Strict decoding refuses a list with an empty place; lossy decoding puts
the replacement character there.
-/

namespace StatusLookup

/-- A record or a file as stored. -/
abbrev Bytes := List UInt8

namespace Utf8

def encode (s : String) : Bytes :=
  s.toList.flatMap String.utf8EncodeChar

/-- A character of which some bytes have been read: its code so far, how many bytes are missing
after the next one, and the range in which the next one must lie. The range of a second byte rules
out overlong forms, surrogates and codes beyond the last character. -/
structure Pending where
  code : Nat
  missing : Nat
  least : UInt8
  greatest : UInt8

/-- What a byte means where a character should begin. -/
inductive Lead where
  | character (c : Char)
  | begins (p : Pending)
  | refused

def lead (b : UInt8) : Lead :=
  if b < 0x80 then .character (Char.ofNat b.toNat)
  else if b < 0xc2 then .refused
  else if b < 0xe0 then .begins ⟨b.toNat - 0xc0, 0, 0x80, 0xbf⟩
  else if b < 0xf0 then
    .begins ⟨b.toNat - 0xe0, 1, if b = 0xe0 then 0xa0 else 0x80, if b = 0xed then 0x9f else 0xbf⟩
  else if b < 0xf5 then
    .begins ⟨b.toNat - 0xf0, 2, if b = 0xf0 then 0x90 else 0x80, if b = 0xf4 then 0x8f else 0xbf⟩
  else .refused

/-- The places a byte yields where a character should begin, and the character it begins. -/
def startWith (b : UInt8) : List (Option Char) × Option Pending :=
  match lead b with
  | .character c => ([some c], none)
  | .begins p => ([], some p)
  | .refused => ([none], none)

/-- One byte of decoding. A byte that cannot continue the character begun ends an invalid part and
is then read afresh. -/
def feed : Option Pending → UInt8 → List (Option Char) × Option Pending
  | none, b => startWith b
  | some p, b =>
    if p.least ≤ b ∧ b ≤ p.greatest then
      let code := p.code * 64 + (b.toNat - 0x80)
      match p.missing with
      | 0 => ([some (Char.ofNat code)], none)
      | missing + 1 => ([], some ⟨code, missing, 0x80, 0xbf⟩)
    else
      (none :: (startWith b).1, (startWith b).2)

/-- The places of the remaining bytes, given the character begun. -/
def placesFrom : Option Pending → Bytes → List (Option Char)
  | none, [] => []
  | some _, [] => [none]
  | p, b :: bs => (feed p b).1 ++ placesFrom (feed p b).2 bs

/-- One place per character, and an empty one per maximal invalid part. -/
def places (bytes : Bytes) : List (Option Char) :=
  placesFrom none bytes

/-- The text these bytes encode, if they are valid. -/
def decode? (bytes : Bytes) : Option String :=
  if (places bytes).all Option.isSome then
    some (String.ofList ((places bytes).filterMap id))
  else
    none

/-- The text these bytes encode, with a replacement character for each invalid part. -/
def decodeLossy (bytes : Bytes) : String :=
  String.ofList ((places bytes).map fun place => place.getD '\ufffd')

end Utf8

end StatusLookup
