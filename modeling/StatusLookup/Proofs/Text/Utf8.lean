import Mathlib.Tactic.ByContra
import StatusLookup.Text.Utf8

/-!
# Decoding is the inverse of encoding

The decoder reads one byte at a time. Between it and the encoder stand the well-formed sequences: a
lead byte with its continuation bytes, in the ranges that leave out overlong forms, surrogates and
codes beyond the last character. The decoder yields a character exactly for such a sequence, and
every character is encoded as the one that has its code.

So strict decoding accepts the encodings of texts and nothing else, and lossy decoding gives an
encoded text back. Of every other byte string it keeps the longest valid prefix, and leaves a
replacement character where that ends.
-/

namespace StatusLookup.Utf8

def IsTail (b : UInt8) : Prop := 0x80 ≤ b.toNat ∧ b.toNat ≤ 0xbf

/-- The bytes that encode the character of a code. -/
inductive Sequence : Bytes → Nat → Prop where
  | one {a : UInt8} : a.toNat < 0x80 → Sequence [a] a.toNat
  | two {a b : UInt8} : 0xc2 ≤ a.toNat → a.toNat < 0xe0 → IsTail b →
      Sequence [a, b] ((a.toNat - 0xc0) * 64 + (b.toNat - 0x80))
  | three {a b c : UInt8} : 0xe0 ≤ a.toNat → a.toNat < 0xf0 → IsTail b →
      (a.toNat = 0xe0 → 0xa0 ≤ b.toNat) → (a.toNat = 0xed → b.toNat ≤ 0x9f) → IsTail c →
      Sequence [a, b, c]
        (((a.toNat - 0xe0) * 64 + (b.toNat - 0x80)) * 64 + (c.toNat - 0x80))
  | four {a b c d : UInt8} : 0xf0 ≤ a.toNat → a.toNat < 0xf5 → IsTail b →
      (a.toNat = 0xf0 → 0x90 ≤ b.toNat) → (a.toNat = 0xf4 → b.toNat ≤ 0x8f) → IsTail c →
      IsTail d →
      Sequence [a, b, c, d]
        ((((a.toNat - 0xf0) * 64 + (b.toNat - 0x80)) * 64 + (c.toNat - 0x80)) * 64
          + (d.toNat - 0x80))

/-! ## What the decoder reads -/

/-- Where a character of two, three or four bytes begins, and what may follow. -/
theorem lead_eq (a : UInt8) :
    lead a =
      if a.toNat < 0x80 then .character (Char.ofNat a.toNat)
      else if a.toNat < 0xc2 then .refused
      else if a.toNat < 0xe0 then .begins ⟨a.toNat - 0xc0, 0, 0x80, 0xbf⟩
      else if a.toNat < 0xf0 then
        .begins ⟨a.toNat - 0xe0, 1, if a.toNat = 0xe0 then 0xa0 else 0x80,
          if a.toNat = 0xed then 0x9f else 0xbf⟩
      else if a.toNat < 0xf5 then
        .begins ⟨a.toNat - 0xf0, 2, if a.toNat = 0xf0 then 0x90 else 0x80,
          if a.toNat = 0xf4 then 0x8f else 0xbf⟩
      else .refused := by
  simp only [lead, UInt8.lt_iff_toNat_lt, ← UInt8.toNat_inj]
  rfl

/-- Where a character should begin, the lead byte decides. -/
theorem placesFrom_none_cons (a : UInt8) (bytes : Bytes) :
    placesFrom none (a :: bytes) =
      match lead a with
      | .character c => some c :: placesFrom none bytes
      | .begins p => placesFrom (some p) bytes
      | .refused => none :: placesFrom none bytes := by
  simp only [placesFrom, feed, startWith]
  cases lead a <;> rfl

/-- A byte in range continues the character that has begun. -/
theorem placesFrom_some_cons {p : Pending} {b : UInt8} (least : p.least.toNat ≤ b.toNat)
    (greatest : b.toNat ≤ p.greatest.toNat) (bytes : Bytes) :
    placesFrom (some p) (b :: bytes) =
      match p.missing with
      | 0 => some (Char.ofNat (p.code * 64 + (b.toNat - 0x80))) :: placesFrom none bytes
      | missing + 1 =>
        placesFrom (some ⟨p.code * 64 + (b.toNat - 0x80), missing, 0x80, 0xbf⟩) bytes := by
  have range : p.least ≤ b ∧ b ≤ p.greatest :=
    ⟨UInt8.le_iff_toNat_le.mpr least, UInt8.le_iff_toNat_le.mpr greatest⟩
  simp only [placesFrom, feed, if_pos range]
  cases p.missing <;> rfl

/-- A character that has begun leaves an empty place unless a byte in range follows. -/
theorem exists_cons_of_head?_ne {p : Pending} {bytes : Bytes}
    (valid : (placesFrom (some p) bytes).head? ≠ some none) :
    ∃ b rest, bytes = b :: rest ∧ p.least.toNat ≤ b.toNat ∧ b.toNat ≤ p.greatest.toNat := by
  cases bytes with
  | nil => simp [placesFrom] at valid
  | cons b rest =>
      by_cases range : p.least ≤ b ∧ b ≤ p.greatest
      · exact ⟨b, rest, rfl, UInt8.le_iff_toNat_le.mp range.1, UInt8.le_iff_toNat_le.mp range.2⟩
      · simp [placesFrom, feed, if_neg range] at valid

theorem range_three {a b : UInt8} :
    ((if a.toNat = 0xe0 then 0xa0 else 0x80 : UInt8).toNat ≤ b.toNat ∧
      b.toNat ≤ (if a.toNat = 0xed then 0x9f else 0xbf : UInt8).toNat) ↔
    IsTail b ∧ (a.toNat = 0xe0 → 0xa0 ≤ b.toNat) ∧ (a.toNat = 0xed → b.toNat ≤ 0x9f) := by
  unfold IsTail
  split <;> split <;> simp [*] <;> omega

theorem range_four {a b : UInt8} :
    ((if a.toNat = 0xf0 then 0x90 else 0x80 : UInt8).toNat ≤ b.toNat ∧
      b.toNat ≤ (if a.toNat = 0xf4 then 0x8f else 0xbf : UInt8).toNat) ↔
    IsTail b ∧ (a.toNat = 0xf0 → 0x90 ≤ b.toNat) ∧ (a.toNat = 0xf4 → b.toNat ≤ 0x8f) := by
  unfold IsTail
  split <;> split <;> simp [*] <;> omega

/-- A continuation byte continues a character past its second byte. -/
theorem placesFrom_tail {b : UInt8} (tail : IsTail b) (code missing : Nat) (bytes : Bytes) :
    placesFrom (some ⟨code, missing, 0x80, 0xbf⟩) (b :: bytes) =
      match missing with
      | 0 => some (Char.ofNat (code * 64 + (b.toNat - 0x80))) :: placesFrom none bytes
      | missing + 1 =>
        placesFrom (some ⟨code * 64 + (b.toNat - 0x80), missing, 0x80, 0xbf⟩) bytes :=
  placesFrom_some_cons (p := ⟨code, missing, 0x80, 0xbf⟩) tail.1 tail.2 bytes

theorem lead_refused {a : UInt8}
    (outside : (0x80 ≤ a.toNat ∧ a.toNat < 0xc2) ∨ 0xf5 ≤ a.toNat) : lead a = .refused := by
  rw [lead_eq, if_neg (by omega)]
  rcases outside with ⟨_, tail⟩ | beyond
  · rw [if_pos tail]
  · rw [if_neg (by omega), if_neg (by omega), if_neg (by omega), if_neg (by omega)]

theorem lead_two {a : UInt8} (least : 0xc2 ≤ a.toNat) (greatest : a.toNat < 0xe0) :
    lead a = .begins ⟨a.toNat - 0xc0, 0, 0x80, 0xbf⟩ := by
  rw [lead_eq, if_neg (by omega), if_neg (by omega), if_pos greatest]

theorem lead_three {a : UInt8} (least : 0xe0 ≤ a.toNat) (greatest : a.toNat < 0xf0) :
    lead a = .begins ⟨a.toNat - 0xe0, 1, if a.toNat = 0xe0 then 0xa0 else 0x80,
      if a.toNat = 0xed then 0x9f else 0xbf⟩ := by
  rw [lead_eq, if_neg (by omega), if_neg (by omega), if_neg (by omega), if_pos greatest]

theorem lead_four {a : UInt8} (least : 0xf0 ≤ a.toNat) (greatest : a.toNat < 0xf5) :
    lead a = .begins ⟨a.toNat - 0xf0, 2, if a.toNat = 0xf0 then 0x90 else 0x80,
      if a.toNat = 0xf4 then 0x8f else 0xbf⟩ := by
  rw [lead_eq, if_neg (by omega), if_neg (by omega), if_neg (by omega), if_neg (by omega),
    if_pos greatest]

/-- A well-formed sequence is read as the character of its code. -/
theorem placesFrom_sequence {bytes : Bytes} {code : Nat} (sequence : Sequence bytes code)
    (rest : Bytes) :
    placesFrom none (bytes ++ rest) = some (Char.ofNat code) :: placesFrom none rest := by
  cases sequence with
  | @one a low =>
      rw [List.singleton_append, placesFrom_none_cons, lead_eq, if_pos low]
  | two least greatest tail =>
      simp only [List.cons_append, List.nil_append, placesFrom_none_cons, lead_two least greatest,
        placesFrom_tail tail]
  | three least greatest tail overlong surrogate tail' =>
      obtain ⟨low, high⟩ := range_three.mpr ⟨tail, overlong, surrogate⟩
      simp only [List.cons_append, List.nil_append, placesFrom_none_cons,
        lead_three least greatest]
      rw [placesFrom_some_cons low high]
      exact placesFrom_tail tail' _ 0 rest
  | four least greatest tail overlong last tail' tail'' =>
      obtain ⟨low, high⟩ := range_four.mpr ⟨tail, overlong, last⟩
      simp only [List.cons_append, List.nil_append, placesFrom_none_cons, lead_four least greatest]
      rw [placesFrom_some_cons low high]
      simp only [placesFrom_tail tail', placesFrom_tail tail'']

/-- Bytes of which the first place is not empty start with a well-formed sequence. -/
theorem exists_sequence {bytes : Bytes} (ne_nil : bytes ≠ [])
    (valid : (placesFrom none bytes).head? ≠ some none) :
    ∃ front code rest, Sequence front code ∧ bytes = front ++ rest := by
  obtain ⟨a, bytes, rfl⟩ := List.exists_cons_of_ne_nil ne_nil
  rw [placesFrom_none_cons] at valid
  have range : a.toNat < 0x80 ∨ ((0x80 ≤ a.toNat ∧ a.toNat < 0xc2) ∨ 0xf5 ≤ a.toNat) ∨
      (0xc2 ≤ a.toNat ∧ a.toNat < 0xe0) ∨ (0xe0 ≤ a.toNat ∧ a.toNat < 0xf0) ∨
      (0xf0 ≤ a.toNat ∧ a.toNat < 0xf5) := by omega
  rcases range with low | outside | ⟨least, greatest⟩ | ⟨least, greatest⟩ | ⟨least, greatest⟩
  · exact ⟨[a], _, bytes, .one low, rfl⟩
  · rw [lead_refused outside] at valid
    exact absurd rfl valid
  · rw [lead_two least greatest] at valid
    obtain ⟨b, rest, rfl, low, high⟩ := exists_cons_of_head?_ne valid
    exact ⟨[a, b], _, rest, .two least greatest ⟨low, high⟩, rfl⟩
  · rw [lead_three least greatest] at valid
    obtain ⟨b, bytes, rfl, low, high⟩ := exists_cons_of_head?_ne valid
    obtain ⟨tail, overlong, surrogate⟩ := range_three.mp ⟨low, high⟩
    simp only [placesFrom_some_cons low high] at valid
    obtain ⟨c, rest, rfl, low', high'⟩ := exists_cons_of_head?_ne valid
    exact ⟨[a, b, c], _, rest, .three least greatest tail overlong surrogate ⟨low', high'⟩, rfl⟩
  · rw [lead_four least greatest] at valid
    obtain ⟨b, bytes, rfl, low, high⟩ := exists_cons_of_head?_ne valid
    obtain ⟨tail, overlong, last⟩ := range_four.mp ⟨low, high⟩
    simp only [placesFrom_some_cons low high] at valid
    obtain ⟨c, bytes, rfl, low', high'⟩ := exists_cons_of_head?_ne valid
    have tail' : IsTail c := ⟨low', high'⟩
    simp only [placesFrom_tail tail'] at valid
    obtain ⟨d, rest, rfl, low'', high''⟩ := exists_cons_of_head?_ne valid
    exact ⟨[a, b, c, d], _, rest,
      .four least greatest tail overlong last tail' ⟨low'', high''⟩, rfl⟩

/-! ## What the encoder writes -/

private theorem toNat_charOfNat {n : Nat} (valid : n.isValidChar) :
    (Char.ofNat n).val.toNat = n := by
  rw [Char.ofNat, dif_pos valid]
  rfl

private theorem byte_eq {n : Nat} {a : UInt8} (same : n = a.toNat) : UInt8.ofNat n = a := by
  rw [same, UInt8.ofNat_toNat]

private theorem toNat_byte {n : Nat} (small : n < 0x100) : (UInt8.ofNat n).toNat = n := by
  rw [UInt8.toNat_ofNat', Nat.mod_eq_of_lt small]

/-- A well-formed sequence is what the character of its code is encoded as. -/
theorem encodeChar_of_sequence {bytes : Bytes} {code : Nat} (sequence : Sequence bytes code) :
    String.utf8EncodeChar (Char.ofNat code) = bytes := by
  cases sequence with
  | @one a low =>
      have value := toNat_charOfNat (n := a.toNat) (.inl (by omega))
      simp only [String.utf8EncodeChar, value]
      rw [if_pos (by omega), byte_eq rfl]
  | @two a b least greatest tail =>
      obtain ⟨low, high⟩ := tail
      have value := toNat_charOfNat (n := (a.toNat - 0xc0) * 64 + (b.toNat - 0x80))
        (.inl (by omega))
      simp only [String.utf8EncodeChar, value]
      rw [if_neg (by omega), if_pos (by omega), byte_eq (a := a) (by omega),
        byte_eq (a := b) (by omega)]
  | @three a b c least greatest tail overlong surrogate tail' =>
      obtain ⟨low, high⟩ := tail
      obtain ⟨low', high'⟩ := tail'
      have value := toNat_charOfNat
        (n := ((a.toNat - 0xe0) * 64 + (b.toNat - 0x80)) * 64 + (c.toNat - 0x80))
        (by unfold Nat.isValidChar; omega)
      simp only [String.utf8EncodeChar, value]
      rw [if_neg (by omega), if_neg (by omega), if_pos (by omega), byte_eq (a := a) (by omega),
        byte_eq (a := b) (by omega), byte_eq (a := c) (by omega)]
  | @four a b c d least greatest tail overlong last tail' tail'' =>
      obtain ⟨low, high⟩ := tail
      obtain ⟨low', high'⟩ := tail'
      obtain ⟨low'', high''⟩ := tail''
      have value := toNat_charOfNat
        (n := (((a.toNat - 0xf0) * 64 + (b.toNat - 0x80)) * 64 + (c.toNat - 0x80)) * 64
          + (d.toNat - 0x80)) (.inr (by omega))
      simp only [String.utf8EncodeChar, value]
      rw [if_neg (by omega), if_neg (by omega), if_neg (by omega), byte_eq (a := a) (by omega),
        byte_eq (a := b) (by omega), byte_eq (a := c) (by omega), byte_eq (a := d) (by omega)]

/-- Two groups of bits, of which the first one is not too small. -/
private theorem sequence_two {x y : Nat} (least : 2 ≤ x) (greatest : x < 0x20) (tail : y < 0x40) :
    Sequence [UInt8.ofNat (x + 0xc0), UInt8.ofNat (y + 0x80)] (x * 64 + y) := by
  have first := toNat_byte (n := x + 0xc0) (by omega)
  have second := toNat_byte (n := y + 0x80) (by omega)
  have sequence := Sequence.two (a := UInt8.ofNat (x + 0xc0)) (b := UInt8.ofNat (y + 0x80))
    (by omega) (by omega) ⟨by omega, by omega⟩
  rwa [first, second, Nat.add_sub_cancel, Nat.add_sub_cancel] at sequence

/-- Three groups of bits that make neither an overlong form nor a surrogate. -/
private theorem sequence_three {x y z : Nat} (greatest : x < 0x10) (tail : y < 0x40)
    (tail' : z < 0x40) (overlong : x = 0 → 0x20 ≤ y) (surrogate : x = 0xd → y < 0x20) :
    Sequence [UInt8.ofNat (x + 0xe0), UInt8.ofNat (y + 0x80), UInt8.ofNat (z + 0x80)]
      ((x * 64 + y) * 64 + z) := by
  have first := toNat_byte (n := x + 0xe0) (by omega)
  have second := toNat_byte (n := y + 0x80) (by omega)
  have third := toNat_byte (n := z + 0x80) (by omega)
  have sequence := Sequence.three (a := UInt8.ofNat (x + 0xe0)) (b := UInt8.ofNat (y + 0x80))
    (c := UInt8.ofNat (z + 0x80)) (by omega) (by omega) ⟨by omega, by omega⟩ (by omega) (by omega)
    ⟨by omega, by omega⟩
  rwa [first, second, third, Nat.add_sub_cancel, Nat.add_sub_cancel, Nat.add_sub_cancel]
    at sequence

/-- Four groups of bits that make no overlong form and stay within the last character. -/
private theorem sequence_four {x y z u : Nat} (greatest : x < 5) (tail : y < 0x40)
    (tail' : z < 0x40) (tail'' : u < 0x40) (overlong : x = 0 → 0x10 ≤ y)
    (last : x = 4 → y < 0x10) :
    Sequence [UInt8.ofNat (x + 0xf0), UInt8.ofNat (y + 0x80), UInt8.ofNat (z + 0x80),
      UInt8.ofNat (u + 0x80)] (((x * 64 + y) * 64 + z) * 64 + u) := by
  have first := toNat_byte (n := x + 0xf0) (by omega)
  have second := toNat_byte (n := y + 0x80) (by omega)
  have third := toNat_byte (n := z + 0x80) (by omega)
  have fourth := toNat_byte (n := u + 0x80) (by omega)
  have sequence := Sequence.four (a := UInt8.ofNat (x + 0xf0)) (b := UInt8.ofNat (y + 0x80))
    (c := UInt8.ofNat (z + 0x80)) (d := UInt8.ofNat (u + 0x80)) (by omega) (by omega)
    ⟨by omega, by omega⟩ (by omega) (by omega) ⟨by omega, by omega⟩ ⟨by omega, by omega⟩
  rwa [first, second, third, fourth, Nat.add_sub_cancel, Nat.add_sub_cancel, Nat.add_sub_cancel,
    Nat.add_sub_cancel] at sequence

/-- Every character is encoded as a well-formed sequence of its code. -/
theorem sequence_encodeChar (c : Char) : Sequence (String.utf8EncodeChar c) c.toNat := by
  have valid : c.toNat.isValidChar := c.valid
  unfold Nat.isValidChar at valid
  unfold String.utf8EncodeChar
  simp only [Char.toNat_val]
  generalize c.toNat = v at *
  split
  · have sequence := Sequence.one (a := UInt8.ofNat v) (by rw [toNat_byte] <;> omega)
    rwa [toNat_byte (by omega)] at sequence
  · split
    · have code : v / 64 % 0x20 * 64 + v % 0x40 = v := by omega
      have sequence := sequence_two (x := v / 64 % 0x20) (y := v % 0x40) (by omega) (by omega)
        (by omega)
      rwa [code] at sequence
    · split
      · have code : (v / 4096 % 0x10 * 64 + v / 64 % 0x40) * 64 + v % 0x40 = v := by omega
        have sequence := sequence_three (x := v / 4096 % 0x10) (y := v / 64 % 0x40)
          (z := v % 0x40) (by omega) (by omega) (by omega) (by omega) (by omega)
        rwa [code] at sequence
      · have code : ((v / 262144 % 0x08 * 64 + v / 4096 % 0x40) * 64 + v / 64 % 0x40) * 64
            + v % 0x40 = v := by omega
        have sequence := sequence_four (x := v / 262144 % 0x08) (y := v / 4096 % 0x40)
          (z := v / 64 % 0x40) (u := v % 0x40) (by omega) (by omega) (by omega) (by omega)
          (by omega) (by omega)
        rwa [code] at sequence

/-! ## Decoding an encoded text -/

theorem places_sequence {bytes : Bytes} {code : Nat} (sequence : Sequence bytes code)
    (rest : Bytes) : places (bytes ++ rest) = some (Char.ofNat code) :: places rest :=
  placesFrom_sequence sequence rest

/-- The characters of a text are its places, whatever bytes follow. -/
theorem places_encode_append (text : String) (rest : Bytes) :
    places (encode text ++ rest) = text.toList.map some ++ places rest := by
  suffices ∀ characters : List Char, places (characters.flatMap String.utf8EncodeChar ++ rest) =
      characters.map some ++ places rest from
    this text.toList
  intro characters
  induction characters with
  | nil => rfl
  | cons c characters ih =>
      rw [List.flatMap_cons, List.append_assoc, places_sequence (sequence_encodeChar c),
        Char.ofNat_toNat, ih, List.map_cons, List.cons_append]

theorem places_encode (text : String) : places (encode text) = text.toList.map some := by
  have places_append := places_encode_append text []
  rwa [List.append_nil, show places [] = [] from rfl, List.append_nil] at places_append

/-- Lossy decoding reads the encoding of a text as that text, whatever bytes follow. -/
theorem decodeLossy_encode_append (text : String) (rest : Bytes) :
    decodeLossy (encode text ++ rest) = text ++ decodeLossy rest := by
  rw [← String.toList_inj, decodeLossy, places_encode_append]
  simp [decodeLossy, Function.comp_def]

/-- Lossy decoding gives a text back from its bytes. -/
@[simp] theorem decodeLossy_encode (text : String) : decodeLossy (encode text) = text := by
  rw [decodeLossy, places_encode]
  simp [Function.comp_def]

/-- Bytes are the encoding of a text up to their end or to an empty place. -/
theorem exists_encode_append (bytes : Bytes) :
    ∃ text rest, bytes = encode text ++ rest ∧ (rest = [] ∨ (places rest).head? = some none) := by
  -- One character is taken off at a time, so the induction is on the number of bytes left.
  induction length : bytes.length using Nat.strongRecOn generalizing bytes with
  | ind n ih =>
      by_cases read : bytes = [] ∨ (places bytes).head? = some none
      · exact ⟨"", bytes, rfl, read⟩
      · obtain ⟨ne_nil, valid⟩ := not_or.mp read
        obtain ⟨front, code, bytes, sequence, rfl⟩ := exists_sequence ne_nil valid
        obtain ⟨text, rest, rfl, stop⟩ := ih bytes.length
          (by cases sequence <;> simp [← length] <;> omega) bytes rfl
        refine ⟨String.ofList (Char.ofNat code :: text.toList), rest, ?_, stop⟩
        rw [encode, encode, String.toList_ofList, List.flatMap_cons,
          encodeChar_of_sequence sequence, List.append_assoc]

/-- Bytes without an empty place are the encoding of a text. -/
theorem exists_encode {bytes : Bytes} (valid : none ∉ places bytes) :
    ∃ text, encode text = bytes := by
  obtain ⟨text, rest, rfl, rfl | empty⟩ := exists_encode_append bytes
  · exact ⟨text, (List.append_nil _).symm⟩
  · rw [places_encode_append] at valid
    exact absurd (List.mem_append_right _ (List.mem_of_mem_head? empty)) valid

/-- Strict decoding accepts the bytes of texts and nothing else. -/
theorem decode?_eq_some_iff {bytes : Bytes} {text : String} :
    decode? bytes = some text ↔ encode text = bytes := by
  have decode_encode (text : String) : decode? (encode text) = some text := by
    rw [decode?, places_encode]
    simp
  constructor
  · intro decoded
    have valid : none ∉ places bytes := by
      intro member
      rw [decode?, if_neg] at decoded
      · contradiction
      · rw [List.all_eq_true]
        intro all
        exact absurd (all none member) (by simp)
    obtain ⟨text', rfl⟩ := exists_encode valid
    rw [decode_encode, Option.some_inj] at decoded
    rw [decoded]
  · rintro rfl
    exact decode_encode text

/-! ## The longest valid prefix -/

/-- The text that the longest valid prefix of the bytes encodes. -/
structure IsLongestValid (text : String) (bytes : Bytes) : Prop where
  begins : encode text <+: bytes
  longest : ∀ text', encode text' <+: bytes → (encode text').length ≤ (encode text).length

/-- Characters in front of any places begin those in front of an empty place or of none. -/
theorem prefix_of_map_some_append {front front' : List Char} {back back' : List (Option Char)}
    (read : ∀ c, back'.head? ≠ some (some c))
    (same : front.map some ++ back = front'.map some ++ back') : front <+: front' := by
  induction front generalizing front' with
  | nil => exact List.nil_prefix
  | cons c front ih =>
      cases front' with
      | nil => exact absurd (congrArg List.head? same).symm (read c)
      | cons c' front' =>
          obtain ⟨first, others⟩ := List.cons.inj same
          exact List.cons_prefix_cons.mpr ⟨Option.some.inj first, ih others⟩

theorem encode_isPrefix {text text' : String} (begins : text.toList <+: text'.toList) :
    encode text <+: encode text' := by
  obtain ⟨more, split⟩ := begins
  rw [encode, encode, ← split, List.flatMap_append]
  exact List.prefix_append _ _

/-- What is read up to the end or to an empty place is the longest valid prefix. -/
theorem isLongestValid_of_append {text : String} {rest : Bytes}
    (read : rest = [] ∨ (places rest).head? = some none) :
    IsLongestValid text (encode text ++ rest) where
  begins := List.prefix_append _ _
  longest := by
    rintro text' ⟨rest', split⟩
    -- Both texts are read off the same bytes, so they are compared as places.
    have characters : text'.toList.map some ++ places rest' =
        text.toList.map some ++ places rest := by
      rw [← places_encode_append, split, places_encode_append]
    refine (encode_isPrefix (prefix_of_map_some_append ?_ characters)).length_le
    intro c head
    rcases read with rfl | empty
    · cases head
    · rw [empty] at head
      cases head

/-- Of bytes that are no text, lossy decoding keeps the longest valid prefix, and marks the place
where it ends. -/
theorem exists_isLongestValid {bytes : Bytes} (invalid : ∀ text, encode text ≠ bytes) :
    ∃ text rest, IsLongestValid text bytes ∧ decodeLossy bytes = text ++ "\ufffd" ++ rest := by
  obtain ⟨text, back, rfl, read⟩ := exists_encode_append bytes
  refine ⟨text, String.ofList ((places back).tail.map fun place => place.getD '\ufffd'),
    isLongestValid_of_append read, ?_⟩
  rcases read with rfl | empty
  · exact absurd (List.append_nil _).symm (invalid text)
  · obtain ⟨others, split⟩ := List.head?_eq_some_iff.mp empty
    rw [decodeLossy_encode_append, decodeLossy, split, ← String.toList_inj]
    simp

/-- Bytes that are no text leave a replacement character in what lossy decoding makes of them. -/
theorem replacement_mem_decodeLossy {bytes : Bytes} (invalid : ∀ text, encode text ≠ bytes) :
    '\ufffd' ∈ (decodeLossy bytes).toList := by
  obtain ⟨text, rest, -, split⟩ := exists_isLongestValid invalid
  rw [split]
  simp

theorem decodeLossy_ne_empty {bytes : Bytes} (filled : bytes ≠ []) : decodeLossy bytes ≠ "" := by
  by_cases valid : ∃ text, encode text = bytes
  · obtain ⟨text, rfl⟩ := valid
    rw [decodeLossy_encode]
    rintro rfl
    exact filled rfl
  · intro lost
    have marked := replacement_mem_decodeLossy (not_exists.mp valid)
    rw [lost] at marked
    contradiction

/-- A record that is replaced by what lossy decoding makes of it is not emptied. -/
theorem encode_decodeLossy_ne_nil {bytes : Bytes} (filled : bytes ≠ []) :
    encode (decodeLossy bytes) ≠ [] := by
  intro lost
  have decoded := decodeLossy_encode (decodeLossy bytes)
  rw [lost] at decoded
  exact decodeLossy_ne_empty filled decoded.symm

end StatusLookup.Utf8
