import Mathlib.Data.List.Basic
import StatusLookup.Proofs.Text.Hexadecimal
import StatusLookup.Text.Quoted

/-!
# What quoting keeps and what it hides

Between quotes a character is written raw, by a letter after a backslash, or by its code point in
braces. However it is written, what follows it can be told apart from it: a raw character is neither
a quote nor a backslash, no letter is the one that announces a code point, and no digit closes a
brace. So a text is known from its quoted form, whatever stands behind that.

What is written is printable in all three ways, so a quoted text holds no control character and no
line break.
-/

namespace StatusLookup.Text

/-- The characters that are written as a letter after a backslash, with their letters. -/
def letters : List (Char × Char) :=
  [('\x00', '0'), ('\t', 't'), ('\r', 'r'), ('\n', 'n'), ('"', '"'), ('\\', '\\')]

/-- The ways to write a character between quotes. -/
inductive WrittenAs (c : Char) : List Char → Prop where
  | raw : isPrintable c = true → c ≠ '"' → c ≠ '\\' → WrittenAs c [c]
  | letter {letter : Char} : (c, letter) ∈ letters → WrittenAs c ['\\', letter]
  | codePoint : WrittenAs c (codePointEscape c)

theorem writtenAs_quotedChar (c : Char) : WrittenAs c (quotedChar c) := by
  unfold quotedChar
  split
  · exact .letter (by decide)
  · exact .letter (by decide)
  · exact .letter (by decide)
  · exact .letter (by decide)
  · exact .letter (by decide)
  · exact .letter (by decide)
  · rename_i quote backslash
    split
    · exact .codePoint
    · rename_i shown
      rw [Bool.or_eq_true, not_or] at shown
      exact .raw (by simpa using shown.2) quote backslash

/-! ## A quoted text is told apart -/

theorem brace_notMem_toDigits (n : Nat) : '}' ∉ Nat.toDigits 16 n := by
  intro member
  obtain ⟨d, -, brace⟩ := exists_eq_digitChar_of_mem_toDigits member
  exact Nat.digitChar_ne '}' (by decide) brace.symm

/-- What stands in front of the first of some character is told apart from what stands behind. -/
theorem append_cons_inj {a : Char} {front front' back back' : List Char} (clear : a ∉ front)
    (clear' : a ∉ front') (same : front ++ a :: back = front' ++ a :: back') :
    front = front' ∧ back = back' := by
  induction front generalizing front' with
  | nil =>
      cases front' with
      | nil => exact ⟨rfl, (List.cons.inj same).2⟩
      | cons c front' => exact absurd ((List.cons.inj same).1 ▸ List.mem_cons_self) clear'
  | cons c front ih =>
      cases front' with
      | nil => exact absurd ((List.cons.inj same).1 ▸ List.mem_cons_self) clear
      | cons c' front' =>
          obtain ⟨rfl, rest⟩ := List.cons.inj same
          obtain ⟨rfl, rfl⟩ := ih (fun member => clear (List.mem_cons_of_mem c member))
            (fun member => clear' (List.mem_cons_of_mem c member)) rest
          exact ⟨rfl, rfl⟩

theorem codePointEscape_append_inj {c d : Char} {back back' : List Char}
    (same : codePointEscape c ++ back = codePointEscape d ++ back') : c = d ∧ back = back' := by
  have spelled :
      Nat.toDigits 16 c.toNat ++ '}' :: back = Nat.toDigits 16 d.toNat ++ '}' :: back' := by
    simpa [codePointEscape] using same
  obtain ⟨digits, rest⟩ :=
    append_cons_inj (brace_notMem_toDigits c.toNat) (brace_notMem_toDigits d.toNat) spelled
  have number := congrArg hexNumber? digits
  rw [hexNumber?_toDigits, hexNumber?_toDigits] at number
  exact ⟨Char.toNat_inj.mp (Option.some.inj number), rest⟩

/-- Each letter stands for one character, and none announces a code point. -/
theorem letters_apart : (∀ p ∈ letters, ∀ q ∈ letters, p.2 = q.2 → p.1 = q.1) ∧
    ∀ p ∈ letters, p.2 ≠ 'u' := by
  simp [letters]

variable {c d : Char} {front front' back back' : List Char}

/-- However two characters are written, they are told apart, and so is what follows them. -/
theorem WrittenAs.append_inj (written : WrittenAs c front) (written' : WrittenAs d front')
    (same : front ++ back = front' ++ back') : c = d ∧ back = back' := by
  cases written with
  | raw _ _ plain =>
      cases written' with
      | raw => exact List.cons.inj same
      | letter => exact absurd (List.cons.inj same).1 plain
      | codePoint => exact absurd (List.cons.inj same).1 plain
  | letter listed =>
      cases written' with
      | raw _ _ plain => exact absurd (List.cons.inj same).1.symm plain
      | letter listed' =>
          obtain ⟨letter, rest⟩ := List.cons.inj (List.cons.inj same).2
          exact ⟨letters_apart.1 _ listed _ listed' letter, rest⟩
      | codePoint =>
          exact absurd (List.cons.inj (List.cons.inj same).2).1 (letters_apart.2 _ listed)
  | codePoint =>
      cases written' with
      | raw _ _ plain => exact absurd (List.cons.inj same).1.symm plain
      | letter listed' =>
          exact absurd (List.cons.inj (List.cons.inj same).2).1.symm (letters_apart.2 _ listed')
      | codePoint => exact codePointEscape_append_inj same

/-- No character is written as a quote and something behind it. -/
theorem WrittenAs.ne_quote (written : WrittenAs c front) : front ++ back ≠ '"' :: back' := by
  intro same
  cases written with
  | raw _ quote _ => exact quote (List.cons.inj same).1
  | letter => exact absurd (List.cons.inj same).1 (by decide)
  | codePoint => exact absurd (List.cons.inj same).1 (by decide)

-- The closing quote says where the text ends, so it stands behind both texts in the induction.
theorem flatMap_quotedChar_append_inj {text text' : List Char}
    (same : text.flatMap quotedChar ++ '"' :: back = text'.flatMap quotedChar ++ '"' :: back') :
    text = text' ∧ back = back' := by
  induction text generalizing text' with
  | nil =>
      cases text' with
      | nil => exact ⟨rfl, (List.cons.inj same).2⟩
      | cons d text' =>
          rw [List.flatMap_cons, List.append_assoc] at same
          exact absurd same.symm (writtenAs_quotedChar d).ne_quote
  | cons c text ih =>
      cases text' with
      | nil =>
          rw [List.flatMap_cons, List.append_assoc] at same
          exact absurd same (writtenAs_quotedChar c).ne_quote
      | cons d text' =>
          rw [List.flatMap_cons, List.flatMap_cons, List.append_assoc, List.append_assoc] at same
          obtain ⟨rfl, rest⟩ := (writtenAs_quotedChar c).append_inj (writtenAs_quotedChar d) same
          obtain ⟨rfl, rfl⟩ := ih rest
          exact ⟨rfl, rfl⟩

/-- A text is known from its quoted form, and so is what stands behind that. -/
theorem quoted_append_inj {text text' rest rest' : String}
    (same : quoted text ++ rest = quoted text' ++ rest') : text = text' ∧ rest = rest' := by
  have spelled := String.toList_inj.mpr same
  simp only [quoted, String.toList_append, String.toList_ofList, List.cons_append,
    List.append_assoc, List.nil_append] at spelled
  obtain ⟨inner, outer⟩ := flatMap_quotedChar_append_inj (List.cons.inj spelled).2
  exact ⟨String.toList_inj.mp inner, String.toList_inj.mp outer⟩

theorem quoted_injective {text text' : String} (same : quoted text = quoted text') :
    text = text' := by
  have behind : quoted text ++ "" = quoted text' ++ "" := by rw [same]
  exact (quoted_append_inj behind).1

/-! ## A quoted text is one line -/

/-- The general category Cc. -/
def IsControl (c : Char) : Prop :=
  c.toNat < 0x20 ∨ (0x7f ≤ c.toNat ∧ c.toNat < 0xa0)

/-- The characters at which a line may end, the line and paragraph separators among them. -/
def lineBreaks : List Char :=
  ['\n', '\x0b', '\x0c', '\r', '\u0085', '\u2028', '\u2029']

/-- A text that shows as one line. -/
def IsOneLine (text : String) : Prop :=
  ∀ c ∈ text.toList, ¬ IsControl c ∧ c ∉ lineBreaks

theorem unprintable_outside_ascii :
    unprintable.all (fun range => range.2 < 0x20 || 0x7f ≤ range.1) = true := by
  decide +kernel

theorem isPrintable_of_ascii (ascii : 0x20 ≤ c.toNat ∧ c.toNat < 0x7f) : isPrintable c = true := by
  rw [isPrintable, Bool.not_eq_true', ← Bool.not_eq_true, Ranges.contains_eq_true]
  rintro ⟨range, listed, least, greatest⟩
  have outside := List.all_eq_true.mp unprintable_outside_ascii range listed
  simp only [Bool.or_eq_true, decide_eq_true_eq] at outside
  omega

theorem not_isControl_of_isPrintable (printable : isPrintable c = true) : ¬ IsControl c := by
  intro control
  have hidden : unprintable.contains c.toNat = true := by
    rw [Ranges.contains_eq_true]
    rcases control with low | ⟨least, greatest⟩
    · exact ⟨(0x0, 0x1f), List.mem_cons_self, Nat.zero_le _, Nat.le_of_lt_succ low⟩
    · exact ⟨(0x7f, 0xa0), List.mem_cons_of_mem _ List.mem_cons_self, least, Nat.le_of_lt greatest⟩
  rw [isPrintable, hidden] at printable
  contradiction

theorem lineBreaks_unprintable : lineBreaks.all (fun c => !isPrintable c) = true := by
  decide +kernel

theorem notMem_lineBreaks_of_isPrintable (printable : isPrintable c = true) : c ∉ lineBreaks := by
  intro lineBreak
  have hidden := List.all_eq_true.mp lineBreaks_unprintable c lineBreak
  rw [printable] at hidden
  contradiction

theorem isOneLine_of_isPrintable {text : String}
    (printable : ∀ c ∈ text.toList, isPrintable c = true) : IsOneLine text := by
  intro c member
  exact ⟨not_isControl_of_isPrintable (printable c member),
    notMem_lineBreaks_of_isPrintable (printable c member)⟩

theorem isOneLine_of_ascii {text : String}
    (ascii : text.toList.all (fun c => 0x20 ≤ c.toNat && c.toNat < 0x7f) = true) :
    IsOneLine text := by
  refine isOneLine_of_isPrintable fun c member => isPrintable_of_ascii ?_
  simpa using List.all_eq_true.mp ascii c member

theorem IsOneLine.append {text text' : String} (front : IsOneLine text) (back : IsOneLine text') :
    IsOneLine (text ++ text') := by
  intro c member
  rw [String.toList_append] at member
  rcases List.mem_append.mp member with member | member
  · exact front c member
  · exact back c member

theorem digitChar_ascii :
    ∀ d < 16, 0x20 ≤ (Nat.digitChar d).toNat ∧ (Nat.digitChar d).toNat < 0x7f := by
  decide

theorem letters_ascii :
    letters.all (fun entry => 0x20 ≤ entry.2.toNat && entry.2.toNat < 0x7f) = true := by
  decide

theorem WrittenAs.isPrintable (written : WrittenAs c front) :
    ∀ shown ∈ front, Text.isPrintable shown = true := by
  intro shown member
  cases written with
  | raw printable _ _ =>
      obtain rfl := List.mem_singleton.mp member
      exact printable
  | letter listed =>
      rcases List.mem_pair.mp member with rfl | rfl
      · exact isPrintable_of_ascii (by decide)
      · exact isPrintable_of_ascii (by simpa using List.all_eq_true.mp letters_ascii _ listed)
  | codePoint =>
      rcases List.mem_append.mp member with member | brace
      · rcases List.mem_append.mp member with opening | digit
        · refine isPrintable_of_ascii ?_
          rcases List.mem_cons.mp opening with rfl | opening
          · decide
          · rcases List.mem_pair.mp opening with rfl | rfl <;> decide
        · obtain ⟨d, small, rfl⟩ := exists_eq_digitChar_of_mem_toDigits digit
          exact isPrintable_of_ascii (digitChar_ascii d small)
      · obtain rfl := List.mem_singleton.mp brace
        exact isPrintable_of_ascii (by decide)

/-- A quoted text is one line, whatever the text is. -/
theorem isOneLine_quoted (text : String) : IsOneLine (quoted text) := by
  have quote : isPrintable '"' = true := isPrintable_of_ascii (by decide)
  refine isOneLine_of_isPrintable fun shown member => ?_
  rw [quoted, String.toList_ofList] at member
  rcases List.mem_append.mp member with inner | last
  · rcases List.mem_cons.mp inner with rfl | inner
    · exact quote
    · obtain ⟨c, -, written⟩ := List.mem_flatMap.mp inner
      exact (writtenAs_quotedChar c).isPrintable shown written
  · obtain rfl := List.mem_singleton.mp last
    exact quote

end StatusLookup.Text
