import StatusLookup.Proofs.Status.Parse

/-!
# The spellings of a name

A text is read as a status, whatever its case, when it can be cut into pieces that spell the name
from left to right. A piece is a letter in either case or an underscore, and there are three pieces
beyond ASCII, each an `i` or an `s` in another shape.

Full uppercasing takes more than these to capitals: the Latin ligatures become two or three letters.
They spell nothing, because no name holds any of these groups. Every other character has a form
with some character that is neither a capital nor an underscore.
-/

namespace StatusLookup

namespace Text

def IsNameChar (c : Char) : Prop :=
  c = '_' ∨ c.isUpper = true

instance (c : Char) : Decidable (IsNameChar c) :=
  inferInstanceAs (Decidable (_ ∨ _))

/-- A text that is made of what names are made of. -/
def IsNameText (text : List Char) : Prop :=
  ∀ c ∈ text, IsNameChar c

instance (text : List Char) : Decidable (IsNameText text) :=
  List.decidableBAll IsNameChar text

/-- A character that spells part of a name. -/
inductive Piece : Char → List Char → Prop where
  | underscore : Piece '_' ['_']
  | capital {c : Char} : c.isUpper = true → Piece c [c]
  | small {c : Char} : c.isUpper = true → Piece c.toLower [c]
  | dotlessI : Piece '\u0131' ['I']
  | longS : Piece '\u017f' ['S']
  | sharpS : Piece '\u00df' ['S', 'S']

/-- The text can be cut into pieces that spell the name from left to right. -/
inductive IsSpelling : List Char → List Char → Prop where
  | nil : IsSpelling [] []
  | cons {c : Char} {part text name : List Char} :
      Piece c part → IsSpelling text name → IsSpelling (c :: text) (part ++ name)

/-- The groups of capitals that the Latin ligatures stand for. -/
def ligatureForms : List (List Char) :=
  [['F', 'F'], ['F', 'I'], ['F', 'L'], ['F', 'F', 'I'], ['F', 'F', 'L'], ['S', 'T']]

/-- The capital letters, counted from `A`. -/
theorem exists_eq_ofNat_of_isUpper {c : Char} (upper : c.isUpper = true) :
    ∃ k : Fin 26, c = Char.ofNat (0x41 + k) := by
  obtain ⟨low, high⟩ : 'A'.val ≤ c.val ∧ c.val ≤ 'Z'.val := of_decide_eq_true upper
  have first : 0x41 ≤ c.toNat := UInt32.le_iff_toNat_le.mp low
  have last : c.toNat ≤ 0x5a := UInt32.le_iff_toNat_le.mp high
  refine ⟨⟨c.toNat - 0x41, by omega⟩, ?_⟩
  rw [show 0x41 + (c.toNat - 0x41) = c.toNat by omega, Char.ofNat_toNat]

theorem upperChar_letter (k : Fin 26) :
    upperChar (Char.ofNat (0x41 + k)) = [Char.ofNat (0x41 + k)] ∧
      upperChar (Char.ofNat (0x41 + k)).toLower = [Char.ofNat (0x41 + k)] := by
  revert k
  decide +kernel

theorem Piece.upperChar_eq {c : Char} {part : List Char} (piece : Piece c part) :
    upperChar c = part := by
  cases piece with
  | underscore => decide +kernel
  | capital upper =>
      obtain ⟨k, rfl⟩ := exists_eq_ofNat_of_isUpper upper
      exact (upperChar_letter k).1
  | small upper =>
      obtain ⟨k, rfl⟩ := exists_eq_ofNat_of_isUpper upper
      exact (upperChar_letter k).2
  | dotlessI => decide +kernel
  | longS => decide +kernel
  | sharpS => decide +kernel

/-- Of the long forms only that of the sharp s and those of the ligatures are made of capitals. -/
theorem longUppercase_cases : ∀ entry ∈ longUppercase,
    IsNameText (entry.2.map Char.ofNat) →
      entry = (0xdf, [0x53, 0x53]) ∨ entry.2.map Char.ofNat ∈ ligatureForms := by
  decide +kernel

/-- Three runs lead into ASCII: the small letters, the dotless i and the long s. -/
theorem caseRuns_cases : ∀ run ∈ caseRuns, run.target < 0x80 →
    run.first = 0x61 ∧ run.last = 0x7a ∧ run.target = 0x41 ∨
    run.first = 0x131 ∧ run.last = 0x131 ∧ run.target = 0x49 ∨
    run.first = 0x17f ∧ run.last = 0x17f ∧ run.target = 0x53 := by
  decide +kernel

theorem IsNameChar.toNat_lt {c : Char} (isNameChar : IsNameChar c) : c.toNat < 0x80 := by
  rcases isNameChar with rfl | upper
  · decide
  · obtain ⟨k, rfl⟩ := exists_eq_ofNat_of_isUpper upper
    revert k
    decide

theorem lt_of_isNameChar_ofNat {n : Nat} (isNameChar : IsNameChar (Char.ofNat n)) : n < 0x80 := by
  by_cases valid : n.isValidChar
  · have small := isNameChar.toNat_lt
    rwa [Char.ofNat, dif_pos valid] at small
  · rw [Char.ofNat, dif_neg valid] at isNameChar
    exact absurd isNameChar (by decide)

/-- Where the uppercase form of a character comes from. -/
theorem upperChar_cases (c : Char) :
    (∃ form, (c.toNat, form) ∈ longUppercase ∧ upperChar c = form.map Char.ofNat) ∨
      (∃ run ∈ caseRuns, run.first ≤ c.toNat ∧ c.toNat ≤ run.last ∧
        upperChar c = [Char.ofNat (run.target + (c.toNat - run.first))]) ∨
      upperChar c = [c] := by
  cases long : longUppercase.lookup c.toNat with
  | some form =>
      obtain ⟨front, back, split, _⟩ := List.lookup_eq_some_iff.mp long
      refine .inl ⟨form, ?_, by simp only [upperChar, long]⟩
      rw [split]
      exact List.mem_append_right front List.mem_cons_self
  | none =>
      cases found : caseRuns.find? (·.covers c.toNat) with
      | some run =>
          have covers := List.find?_some found
          simp only [CaseRun.covers, Bool.and_eq_true, decide_eq_true_eq] at covers
          exact .inr (.inl ⟨run, List.mem_of_find?_eq_some found, covers.1.1, covers.1.2,
            by simp only [upperChar, long, found]⟩)
      | none => exact .inr (.inr (by simp only [upperChar, long, found]))

theorem eq_ofNat_of_toNat_eq {c : Char} {n : Nat} (code : c.toNat = n) : c = Char.ofNat n := by
  rw [← code, Char.ofNat_toNat]

/-- The small letters, counted from `a`, are pieces. -/
theorem piece_small (k : Fin 26) : Piece (Char.ofNat (0x61 + k)) [Char.ofNat (0x41 + k)] := by
  have small : Char.ofNat (0x61 + k) = (Char.ofNat (0x41 + k)).toLower := by
    revert k
    decide
  have upper : (Char.ofNat (0x41 + k)).isUpper = true := by
    revert k
    decide
  rw [small]
  exact .small upper

/-- A character whose uppercase form is made of capitals is a piece, or else a ligature. -/
theorem piece_or_ligature {c : Char} (plain : IsNameText (upperChar c)) :
    Piece c (upperChar c) ∨ upperChar c ∈ ligatureForms := by
  rcases upperChar_cases c with ⟨form, member, form_eq⟩ | ⟨run, member, first, last, form_eq⟩ |
    form_eq
  · rw [form_eq] at plain ⊢
    rcases longUppercase_cases _ member plain with sharp | ligature
    · obtain ⟨code, rfl⟩ := Prod.mk.inj sharp
      rw [eq_ofNat_of_toNat_eq code]
      exact .inl .sharpS
    · exact .inr ligature
  · rw [form_eq] at plain ⊢
    have ascii := lt_of_isNameChar_ofNat (plain _ (List.mem_singleton_self _))
    left
    rcases caseRuns_cases run member (by omega) with
      ⟨a, z, target⟩ | ⟨a, z, target⟩ | ⟨a, z, target⟩
    · have letter := piece_small ⟨c.toNat - 0x61, by omega⟩
      rw [show 0x61 + (c.toNat - 0x61) = c.toNat by omega, Char.ofNat_toNat] at letter
      rwa [target, a]
    · rw [eq_ofNat_of_toNat_eq (c := c) (n := 0x131) (by omega), target, a]
      exact .dotlessI
    · rw [eq_ofNat_of_toNat_eq (c := c) (n := 0x17f) (by omega), target, a]
      exact .longS
  · rw [form_eq] at plain ⊢
    rcases plain c (List.mem_singleton_self c) with rfl | upper
    · exact .inl .underscore
    · exact .inl (.capital upper)

/-- What is spelled is what uppercasing leads to. -/
theorem IsSpelling.flatMap_upperChar {text name : List Char} (spelling : IsSpelling text name) :
    text.flatMap upperChar = name := by
  induction spelling with
  | nil => rfl
  | cons piece _ ih => rw [List.flatMap_cons, piece.upperChar_eq, ih]

/-- A text that uppercases to capitals without the groups of the ligatures is a spelling. -/
theorem isSpelling_flatMap_upperChar {text : List Char}
    (plain : IsNameText (text.flatMap upperChar))
    (free : ∀ form ∈ ligatureForms, ¬ form <:+: text.flatMap upperChar) :
    IsSpelling text (text.flatMap upperChar) := by
  induction text with
  | nil => exact .nil
  | cons c text ih =>
      rw [List.flatMap_cons] at plain free ⊢
      obtain ⟨first, others⟩ := List.forall_mem_append.mp plain
      have rest : IsSpelling text (text.flatMap upperChar) := by
        apply ih others
        intro form member inside
        exact free form member (inside.trans (List.suffix_append _ _).isInfix)
      rcases piece_or_ligature first with piece | ligature
      · exact .cons piece rest
      · exact absurd (List.prefix_append _ _).isInfix (free _ ligature)

theorem isSpelling_self {name : List Char} (plain : IsNameText name) :
    IsSpelling name name := by
  induction name with
  | nil => exact .nil
  | cons c name ih =>
      obtain ⟨first, others⟩ := List.forall_mem_cons.mp plain
      rcases first with rfl | upper
      · exact .cons .underscore (ih others)
      · exact .cons (.capital upper) (ih others)

end Text

namespace Status

theorem isNameText_name (s : Status) : Text.IsNameText s.name.toList := by
  cases s <;> decide

/-- No name holds two or three letters that a ligature stands for. -/
theorem ligature_free (s : Status) : ∀ form ∈ Text.ligatureForms, ¬ form <:+: s.name.toList := by
  cases s <;> decide +kernel

/-- A text uppercases to a name when it spells the name. -/
theorem uppercase_eq_name_iff {text : String} {s : Status} :
    Text.uppercase text = s.name ↔ Text.IsSpelling text.toList s.name.toList := by
  rw [← String.toList_inj, Text.uppercase, String.toList_ofList]
  constructor
  · intro upper
    rw [← upper]
    exact Text.isSpelling_flatMap_upperChar (upper ▸ s.isNameText_name)
      (upper ▸ s.ligature_free)
  · exact Text.IsSpelling.flatMap_upperChar

/-- A name is read as its status in either way. -/
theorem parse_name (s : Status) (ignoreCase : Bool) : parse s.name ignoreCase = .ok s := by
  rw [parse_eq_ok_iff]
  cases ignoreCase with
  | false => rfl
  | true => exact uppercase_eq_name_iff.mpr (Text.isSpelling_self s.isNameText_name)

/-- Reading without regard to case accepts the spellings of the names and nothing else, and refuses
a text as it was given. What is read in either way has a name that is read in both, and what is
read strictly is read as the same status where case is ignored. -/
theorem parse_iff_isSpelling (text : String) :
    (∀ s, parse text true = .ok s ↔ Text.IsSpelling text.toList s.name.toList) ∧
    (∀ e, parse text true = .error e ↔
      e.raw = text ∧ ∀ s : Status, ¬ Text.IsSpelling text.toList s.name.toList) ∧
    (∀ ignoreCase s, parse text ignoreCase = .ok s →
      ∀ ignoreCase', parse s.name ignoreCase' = .ok s) ∧
    ∀ s, parse text false = .ok s → parse text true = .ok s := by
  refine ⟨?_, ?_, fun _ s _ => s.parse_name, ?_⟩
  · intro s
    rw [parse_eq_ok_iff, ← uppercase_eq_name_iff, if_pos rfl]
  · intro e
    simp only [parse_eq_error_iff, if_true, ne_eq, uppercase_eq_name_iff]
  · intro s strict
    have canonical : text = s.name := parse_eq_ok_iff.mp strict
    rw [canonical]
    exact s.parse_name true

/-- Two of the pieces beyond ASCII, in a text that is one letter shorter than the name. -/
theorem parse_dotlessI_sharpS :
    Text.IsSpelling "deployment_\u0131n_progre\u00df".toList deploymentInProgress.name.toList ∧
      parse "deployment_\u0131n_progre\u00df" true = .ok deploymentInProgress ∧
      parse deploymentInProgress.name false = .ok deploymentInProgress := by
  have read : parse "deployment_\u0131n_progre\u00df" true = .ok deploymentInProgress := rfl
  obtain ⟨accepted, _, canonical, _⟩ := parse_iff_isSpelling "deployment_\u0131n_progre\u00df"
  exact ⟨(accepted _).mp read, read, canonical true _ read false⟩

end Status

end StatusLookup
