import Mathlib.Data.List.Basic
import Mathlib.Data.List.TakeWhile
import StatusLookup.Json.Writer
import StatusLookup.Proofs.Json.Text
import StatusLookup.Proofs.Text.Hexadecimal

/-!
# Reading what has been written

A string is read back as it was, whatever stands behind its closing quote. A character is written in
one of three ways, and each of them is taken in by one step of the reader: a raw character is
neither a quote nor a backslash, and a letter after a backslash never announces a code.

An object whose members are strings is read back as well, with all its members and in their order,
and so is an array of strings with its items. In none of what a report is made of is there a control.
-/

namespace StatusLookup.Json

/-! ## Strings -/

/-- The characters that are written as a letter after a backslash, with their letters. -/
def letters : List (Char × Char) :=
  [('"', '"'), ('\\', '\\'), ('\x08', 'b'), ('\t', 't'), ('\n', 'n'), ('\x0c', 'f'), ('\r', 'r')]

/-- The ways to write a character of a string. -/
inductive WrittenAs (c : Char) : List Char → Prop where
  | raw : 0x20 ≤ c.toNat → c ≠ '"' → c ≠ '\\' → WrittenAs c [c]
  | letter {letter : Char} : (c, letter) ∈ letters → WrittenAs c ['\\', letter]
  | code : c.toNat < 0x20 → WrittenAs c ('\\' :: 'u' :: controlDigits c.toNat)

theorem writtenAs_writeChar (c : Char) : WrittenAs c (writeChar c) := by
  unfold writeChar
  split
  · exact .letter (by decide)
  · exact .letter (by decide)
  · exact .letter (by decide)
  · exact .letter (by decide)
  · exact .letter (by decide)
  · exact .letter (by decide)
  · exact .letter (by decide)
  · rename_i quote backslash _ _ _ _ _
    split
    · rename_i control
      exact .code control
    · rename_i visible
      exact .raw (Nat.le_of_not_lt visible) quote backslash

variable {c : Char} {front : List Char}

theorem hexNumber?_controlDigits {n : Nat} (control : n < 0x20) :
    Text.hexNumber? (controlDigits n) = some n := by
  have first := Text.hexDigit?_digitChar_lower (n / 16) (by omega)
  have last := Text.hexDigit?_digitChar_lower (n % 16) (Nat.mod_lt n (by decide))
  have zero : Text.hexDigit? '0' = some 0 := rfl
  simp only [controlDigits, Text.hexNumber?, List.foldlM_cons, List.foldlM_nil, zero, first, last,
    Option.map_some, Option.bind_eq_bind, Option.bind_some, Option.pure_def, Option.some.injEq]
  omega

/-- A letter stands for its character alone, and none announces a code. -/
theorem shortEscape?_of_mem_letters {letter : Char} (listed : (c, letter) ∈ letters) :
    shortEscape? letter = some c ∧ letter ≠ 'u' := by
  have all : ∀ entry ∈ letters, shortEscape? entry.2 = some entry.1 ∧ entry.2 ≠ 'u' := by
    simp [letters, shortEscape?]
  exact all _ listed

/-- However a character is written, the reader takes it in. -/
theorem WrittenAs.stringBody_append (written : WrittenAs c front) (rest : List Char) :
    stringBody (front ++ rest) = prepend [c] (stringBody rest) := by
  cases written with
  | raw visible quote backslash =>
      have unescaped : ¬ (c.toNat < 0x20 ∨ c = '\\') :=
        not_or.mpr ⟨Nat.not_lt.mpr visible, backslash⟩
      rw [List.singleton_append, stringBody, if_neg unescaped]
      all_goals intros; contradiction
  | letter listed =>
      obtain ⟨meant, noCode⟩ := shortEscape?_of_mem_letters listed
      show stringBody ('\\' :: _ :: rest) = _
      rw [stringBody, meant]
      all_goals intros; contradiction
  | code control =>
      have number := hexNumber?_controlDigits control
      rw [controlDigits] at number
      have leading : isLeadingSurrogate c.toNat = false := by
        simp [isLeadingSurrogate]; omega
      have trailing : isTrailingSurrogate c.toNat = false := by
        simp [isTrailingSurrogate]; omega
      simp [controlDigits, stringBody, number, leading, trailing]

/-- A written string is read back up to its closing quote. -/
theorem stringBody_flatMap (text rest : List Char) :
    stringBody (text.flatMap writeChar ++ '"' :: rest) = some (text, rest) := by
  induction text with
  | nil => rfl
  | cons c text ih =>
      rw [List.flatMap_cons, List.append_assoc, (writtenAs_writeChar c).stringBody_append, ih]
      rfl

theorem toList_writeString_append (text : String) (rest : List Char) :
    (writeString text).toList ++ rest = '"' :: (text.toList.flatMap writeChar ++ '"' :: rest) := by
  simp [writeString]

theorem reads_of_blank {text : String} {value : Json} {blanks : List Char}
    (read : read text = (value, some blanks)) (blank : ∀ c ∈ blanks, isSpace c = true) :
    Reads text value := by
  refine ⟨blanks, read, ?_⟩
  rw [skipSpace, List.dropWhile_eq_nil_iff]
  exact blank

/-! ## Objects of strings -/

/-- A member of an object, with a string for its value. -/
def writeMember (member : String × String) : List Char :=
  (writeString member.1).toList ++ ':' :: (writeString member.2).toList

def separator (first : Bool) : List Char :=
  if first then [] else [',']

/-- The members of an object and the brace behind them. -/
def writeMembers : (first : Bool) → List (String × String) → List Char
  | _, [] => ['}']
  | first, member :: members =>
    separator first ++ (writeMember member ++ writeMembers false members)

/-- An object of strings, without blanks. -/
def writeObject (members : List (String × String)) : List Char :=
  '{' :: writeMembers true members

def readMember (member : String × String) : String × Json :=
  (member.1, string member.2)

variable {steps : Nat} (depth : Nat) (first : Bool)

theorem readValue_writeString (text : String) (rest : List Char) :
    readValue (steps + 1) depth ((writeString text).toList ++ rest) = (string text, some rest) := by
  simp [toList_writeString_append, readValue, skipSpace, isSpace, stringBody_flatMap]

/-- A written string is one text, with or without blanks behind it. -/
theorem reads_writeString (text : String) {blanks : List Char}
    (blank : ∀ c ∈ blanks, isSpace c = true) :
    Reads (String.ofList ((writeString text).toList ++ blanks)) (string text) := by
  refine reads_of_blank ?_ blank
  rw [read, String.toList_ofList]
  exact readValue_writeString maxDepth text blanks

/-- A member is read in front of the members behind it. -/
theorem readMembers_writeMember (member : String × String) (rest : List Char) :
    readMembers (steps + 2) depth first (separator first ++ (writeMember member ++ rest)) =
      (readMember member :: (readMembers (steps + 1) depth false rest).1,
        (readMembers (steps + 1) depth false rest).2) := by
  rw [writeMember, List.append_assoc, toList_writeString_append, readMembers]
  cases first <;>
    simp [separator, skipSpace, isSpace, stringBody_flatMap, readValue_writeString, readMember]

/-- One step is enough for each member, and one for the brace. -/
theorem readMembers_writeMembers (members : List (String × String)) (rest : List Char)
    (enough : members.length < steps) :
    readMembers steps depth first (writeMembers first members ++ rest) =
      (members.map readMember, some rest) := by
  induction members generalizing steps first with
  | nil =>
      obtain ⟨steps, rfl⟩ := Nat.exists_eq_add_of_lt enough
      simp [writeMembers, readMembers, skipSpace, isSpace]
  | cons member members ih =>
      obtain ⟨more, rfl⟩ : ∃ more, steps = more + 2 :=
        ⟨steps - 2, by rw [List.length_cons] at enough; omega⟩
      rw [List.length_cons] at enough
      rw [writeMembers, List.append_assoc, List.append_assoc, readMembers_writeMember,
        ih false (Nat.lt_of_succ_lt_succ enough)]
      rfl

theorem length_lt_length_writeMembers (members : List (String × String)) :
    members.length < (writeMembers first members).length := by
  induction members generalizing first with
  | nil => exact Nat.one_pos
  | cons member members ih =>
      have behind := ih false
      simp only [writeMembers, writeMember, List.length_append, List.length_cons]
      omega

theorem readValue_writeObject (members : List (String × String)) (rest : List Char)
    (enough : members.length < steps) :
    readValue (steps + 1) (depth + 1) (writeObject members ++ rest) =
      (object (members.map readMember), some rest) := by
  have read := readMembers_writeMembers depth true members rest enough
  simp [writeObject, readValue, skipSpace, isSpace, read]

/-- A written object is read with all its members, in their order. -/
theorem read_writeObject (members : List (String × String)) (rest : List Char) :
    read (String.ofList (writeObject members ++ rest)) =
      (object (members.map readMember), some rest) := by
  have shorter := length_lt_length_writeMembers true members
  rw [read, String.toList_ofList]
  refine readValue_writeObject 126 members rest ?_
  simp only [writeObject, List.length_append, List.length_cons]
  omega

/-- A written object is one text, with or without blanks behind it. -/
theorem reads_writeObject (members : List (String × String)) {blanks : List Char}
    (blank : ∀ c ∈ blanks, isSpace c = true) :
    Reads (String.ofList (writeObject members ++ blanks)) (object (members.map readMember)) :=
  reads_of_blank (read_writeObject members blanks) blank

theorem writeObject_injective {members members' : List (String × String)}
    (same : writeObject members = writeObject members') : members = members' := by
  have alone := read_writeObject members []
  rw [same, read_writeObject members' []] at alone
  have values := object.inj (congrArg Prod.fst alone)
  refine (List.map_injective_iff.mpr ?_ values).symm
  rintro ⟨name, text⟩ ⟨name', text'⟩ alike
  simpa [readMember] using alike

/-! ## Arrays of strings -/

/-- The items of an array and the bracket behind them. -/
def writeItems : (first : Bool) → List String → List Char
  | _, [] => [']']
  | first, text :: texts => separator first ++ ((writeString text).toList ++ writeItems false texts)

/-- An array of strings, without blanks. -/
def writeArray (texts : List String) : List Char :=
  '[' :: writeItems true texts

/-- An item is read in front of the items behind it. -/
theorem readItems_writeString (text : String) (rest : List Char) :
    readItems (steps + 2) depth first (separator first ++ ((writeString text).toList ++ rest)) =
      (string text :: (readItems (steps + 1) depth false rest).1,
        (readItems (steps + 1) depth false rest).2) := by
  have read : readValue (steps + 1) depth ((writeString text).toList ++ rest) =
      (string text, some rest) := readValue_writeString depth text rest
  rw [toList_writeString_append] at read ⊢
  rw [readItems]
  cases first <;> simp [separator, skipSpace, isSpace, read]

/-- One step is enough for each item, and one for the bracket. -/
theorem readItems_writeItems (texts : List String) (rest : List Char)
    (enough : texts.length < steps) :
    readItems steps depth first (writeItems first texts ++ rest) =
      (texts.map string, some rest) := by
  induction texts generalizing steps first with
  | nil =>
      obtain ⟨steps, rfl⟩ := Nat.exists_eq_add_of_lt enough
      simp [writeItems, readItems, skipSpace, isSpace]
  | cons text texts ih =>
      obtain ⟨more, rfl⟩ : ∃ more, steps = more + 2 :=
        ⟨steps - 2, by rw [List.length_cons] at enough; omega⟩
      rw [List.length_cons] at enough
      rw [writeItems, List.append_assoc, List.append_assoc, readItems_writeString,
        ih false (Nat.lt_of_succ_lt_succ enough)]
      rfl

theorem length_lt_length_writeItems (texts : List String) :
    texts.length < (writeItems first texts).length := by
  induction texts generalizing first with
  | nil => exact Nat.one_pos
  | cons text texts ih =>
      have behind := ih false
      have quotes : 0 < (writeString text).toList.length := by simp [writeString]
      simp only [writeItems, List.length_append, List.length_cons]
      omega

theorem readValue_writeArray (texts : List String) (rest : List Char)
    (enough : texts.length < steps) :
    readValue (steps + 1) (depth + 1) (writeArray texts ++ rest) =
      (array (texts.map string), some rest) := by
  have read := readItems_writeItems depth true texts rest enough
  simp [writeArray, readValue, skipSpace, isSpace, read]

/-- A written array is one text, with or without blanks behind it. -/
theorem reads_writeArray (texts : List String) {blanks : List Char}
    (blank : ∀ c ∈ blanks, isSpace c = true) :
    Reads (String.ofList (writeArray texts ++ blanks)) (array (texts.map string)) := by
  have shorter := length_lt_length_writeItems true texts
  refine reads_of_blank ?_ blank
  rw [read, String.toList_ofList]
  refine readValue_writeArray 126 texts blanks ?_
  simp only [writeArray, List.length_append, List.length_cons]
  omega

/-! ## Controls -/

/-- No character of a text is a control below the blank. -/
def IsVisible (text : List Char) : Prop :=
  ∀ c ∈ text, 0x20 ≤ c.toNat

theorem IsVisible.append {front back : List Char} (visible : IsVisible front)
    (visible' : IsVisible back) : IsVisible (front ++ back) :=
  List.forall_mem_append.mpr ⟨visible, visible'⟩

theorem isVisible_singleton {c : Char} (visible : 0x20 ≤ c.toNat) : IsVisible [c] :=
  List.forall_mem_singleton.mpr visible

theorem isVisible_letters : IsVisible (letters.map Prod.snd) := by
  have all : (letters.map Prod.snd).all fun c => decide (0x20 ≤ c.toNat) := by decide
  intro c member
  exact of_decide_eq_true (List.all_eq_true.mp all c member)

theorem digitChar_visible : ∀ d < 16, 0x20 ≤ (Nat.digitChar d).toNat := by
  decide

theorem isVisible_controlDigits {n : Nat} (control : n < 0x20) : IsVisible (controlDigits n) := by
  have zero : 0x20 ≤ '0'.toNat := by decide
  have first := digitChar_visible (n / 16) (by omega)
  have last := digitChar_visible (n % 16) (Nat.mod_lt n (by decide))
  exact List.forall_mem_cons.mpr ⟨zero, List.forall_mem_cons.mpr ⟨zero,
    List.forall_mem_cons.mpr ⟨first, isVisible_singleton last⟩⟩⟩

/-- However a character is written, no control is among what is written. -/
theorem WrittenAs.isVisible (written : WrittenAs c front) : IsVisible front := by
  have backslash : IsVisible ['\\'] := isVisible_singleton (by decide)
  cases written with
  | raw visible => exact isVisible_singleton visible
  | letter listed =>
      exact backslash.append
        (isVisible_singleton (isVisible_letters _ (List.mem_map_of_mem listed)))
  | code control =>
      have u : IsVisible ['u'] := isVisible_singleton (by decide)
      exact backslash.append (u.append (isVisible_controlDigits control))

theorem isVisible_writeString (text : String) : IsVisible (writeString text).toList := by
  have quote : IsVisible ['"'] := isVisible_singleton (by decide)
  have inner : IsVisible (text.toList.flatMap writeChar) := by
    intro c member
    obtain ⟨original, -, written⟩ := List.mem_flatMap.mp member
    exact (writtenAs_writeChar original).isVisible c written
  rw [writeString, String.toList_ofList]
  exact (quote.append inner).append quote

theorem isVisible_writeMembers (members : List (String × String)) :
    IsVisible (writeMembers first members) := by
  have comma : IsVisible (separator first) := by
    cases first with
    | true => exact List.forall_mem_nil _
    | false => exact isVisible_singleton (by decide)
  induction members generalizing first with
  | nil => exact isVisible_singleton (by decide)
  | cons member members ih =>
      have colon : IsVisible [':'] := isVisible_singleton (by decide)
      have behind := ih false (isVisible_singleton (by decide))
      have written : IsVisible (writeMember member) :=
        (isVisible_writeString member.1).append (colon.append (isVisible_writeString member.2))
      exact comma.append (written.append behind)

theorem isVisible_writeObject (members : List (String × String)) :
    IsVisible (writeObject members) :=
  List.forall_mem_cons.mpr ⟨by decide, isVisible_writeMembers true members⟩

end StatusLookup.Json
