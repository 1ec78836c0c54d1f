import StatusLookup.Proofs.Text.Hexadecimal
import StatusLookup.Yaml.Scalar.Quoted

/-!
# Writing double-quoted scalars

Any text can be written between double quotes on one line: printable ASCII characters as they are,
apart from the quote and the backslash, and all others by their code. Reading undoes this. Blanks
are held back until something follows them, so the reader is described with blanks it already holds.
-/

namespace StatusLookup.Yaml

def isAscii (c : Char) : Bool :=
  ' ' ≤ c && c ≤ '~'

def isRaw (c : Char) : Bool :=
  isAscii c && c != '"' && c != '\\'

def doubleQuotedChar (c : Char) : List Char :=
  if isRaw c then [c] else '\\' :: 'U' :: Text.hexDigits 8 c.toNat

def doubleQuoted (text : String) : List Char :=
  '"' :: text.toList.flatMap doubleQuotedChar ++ ['"']

theorem doubleQuoted_append (text : String) (rest : List Char) :
    doubleQuoted text ++ rest = '"' :: (text.toList.flatMap doubleQuotedChar ++ '"' :: rest) := by
  simp [doubleQuoted]

/-- A character of a class is none that is not of the class. -/
theorem ne_of_class {p : Char → Bool} {c d : Char} (member : p c = true) (other : p d = false) :
    c ≠ d := by
  rintro rfl
  exact Bool.false_ne_true (other.symm.trans member)

theorem isBreak_eq_false {p : Char → Bool} {c : Char} (member : p c = true)
    (lineFeed : p '\n' = false) (line : p '\u2028' = false) (paragraph : p '\u2029' = false) :
    isBreak c = false := by
  simp [isBreak, ne_of_class member lineFeed, ne_of_class member line, ne_of_class member paragraph]

/-- A scalar is written in printable ASCII characters alone. -/
theorem isAscii_of_mem_doubleQuoted {text : String} {c : Char} (member : c ∈ doubleQuoted text) :
    isAscii c = true := by
  have digits : ∀ d < 16, isAscii (Nat.digitChar d).toUpper = true := by decide
  rcases List.mem_cons.mp member with rfl | member
  · decide
  rcases List.mem_append.mp member with inside | last
  · obtain ⟨x, _, member⟩ := List.mem_flatMap.mp inside
    rw [doubleQuotedChar] at member
    split at member
    · rename_i raw
      rw [List.mem_singleton.mp member]
      simp only [isRaw, Bool.and_eq_true] at raw
      exact raw.1.1
    · rcases List.mem_cons.mp member with rfl | member
      · decide
      rcases List.mem_cons.mp member with rfl | member
      · decide
      obtain ⟨d, small, rfl⟩ := Text.exists_eq_digitChar member
      exact digits d small
  · rw [List.mem_singleton.mp last]
    decide

theorem hexChar?_hexDigits (c : Char) : hexChar? (Text.hexDigits 8 c.toNat) = some c := by
  have valid : c.toNat.isValidChar := c.valid
  have fits : c.toNat < pow2 (4 * 8) := by
    have bound : c.toNat < 0x110000 := by omega
    exact Nat.lt_trans bound (by decide)
  rw [hexChar?, Text.hexNumber?_hexDigits fits]
  dsimp only
  rw [if_pos valid, Char.ofNat_toNat]

theorem Position.skip_skip (p : Position) (m n : Nat) : (p.skip m).skip n = p.skip (m + n) :=
  congrArg (Position.mk p.line) (Nat.add_assoc p.column m n)

variable (taken : List Char) (fold : Fold) {p : Position}

theorem readDoubleQuoted_code (c : Char) (rest : List Char) :
    readDoubleQuoted taken fold p ('\\' :: 'U' :: (Text.hexDigits 8 c.toNat ++ rest)) =
      readDoubleQuoted (c :: fold.onto taken) .empty (p.skip 10) rest := by
  have code := hexChar?_hexDigits c
  obtain ⟨a₁, a₂, a₃, a₄, a₅, a₆, a₇, a₈, digits⟩ : ∃ a₁ a₂ a₃ a₄ a₅ a₆ a₇ a₈,
      Text.hexDigits 8 c.toNat = [a₁, a₂, a₃, a₄, a₅, a₆, a₇, a₈] := ⟨_, _, _, _, _, _, _, _, rfl⟩
  rw [digits] at code ⊢
  simp only [List.cons_append, List.nil_append, readDoubleQuoted, code]

theorem readDoubleQuoted_space (rest : List Char) :
    readDoubleQuoted taken fold p (' ' :: rest) =
      readDoubleQuoted taken (fold.addBlank ' ') (p.skip 1) rest := by
  simp [readDoubleQuoted, isBlank]

theorem readDoubleQuoted_raw (inside : 0 < p.column) {c : Char} (raw : isRaw c = true)
    (visible : c ≠ ' ') (rest : List Char) :
    readDoubleQuoted taken fold p (c :: rest) =
      readDoubleQuoted (c :: fold.onto taken) .empty (p.skip 1) rest := by
  have quote : c ≠ '"' := ne_of_class raw (by decide)
  have backslash : c ≠ '\\' := ne_of_class raw (by decide)
  have tab : c ≠ '\t' := ne_of_class raw (by decide)
  have blank : isBlank c = false := by simp [isBlank, visible, tab]
  have noBreak : isBreak c = false := isBreak_eq_false raw (by decide) (by decide) (by decide)
  have column : ¬ (p.column = 0 ∧ atDocumentMark (c :: rest) = true) :=
    fun mark => Nat.ne_of_gt inside mark.1
  rw [readDoubleQuoted, blank, noBreak, if_neg Bool.false_ne_true, if_neg Bool.false_ne_true,
    if_neg column]
  all_goals intros; contradiction

/-- The reader takes in a written text up to the quote behind it. -/
theorem readDoubleQuoted_flatMap (blanks text rest : List Char) (inside : 0 < p.column) :
    readDoubleQuoted taken (.blanks blanks) p (text.flatMap doubleQuotedChar ++ '"' :: rest) =
      some ((blanks ++ taken).reverse ++ text,
        ⟨rest, p.skip ((text.flatMap doubleQuotedChar).length + 1)⟩) := by
  induction text generalizing taken blanks p with
  | nil => simp [readDoubleQuoted, Fold.onto]
  | cons c text ih =>
      rw [List.flatMap_cons, List.append_assoc, doubleQuotedChar]
      by_cases raw : isRaw c = true
      · rw [if_pos raw, List.singleton_append]
        by_cases space : c = ' '
        · subst space
          rw [readDoubleQuoted_space, Fold.addBlank, ih _ _ (Nat.succ_pos _)]
          simp [Position.skip_skip, Nat.add_comm]
        · rw [readDoubleQuoted_raw taken _ inside raw space, Fold.empty, ih _ _ (Nat.succ_pos _)]
          simp [Position.skip_skip, Fold.onto, Nat.add_comm]
      · rw [if_neg raw, List.cons_append, List.cons_append, readDoubleQuoted_code, Fold.empty,
          ih _ _ (Nat.succ_pos _)]
        simp only [Position.skip_skip, Fold.onto, List.length_append, List.length_cons,
          Text.length_hexDigits]
        refine congrArg some (Prod.ext ?_ ?_)
        · simp
        · exact congrArg (Cursor.mk rest ∘ p.skip) (by omega)

end StatusLookup.Yaml
