import Mathlib.Data.List.Forall2
import Mathlib.Data.List.Perm.Basic

/-!
# Fields that are filled once

A record is read entry by entry. Each field has a slot, which the value of an entry of its name
fills, and a second entry of that name is refused. So what a slot holds in the end depends on the
values under the name of the field alone: there is none, and the slot is as it was, or there is one,
and the slot was empty. Neither the order of the entries nor what stands under other names has a
part in it.
-/

namespace StatusLookup.Fields

variable {κ α β : Type}

/-! ## The values under a name -/

/-- The values of the entries whose keys pass a test, in their order. -/
def valuesOf (test : κ → Bool) (entries : List (κ × β)) : List β :=
  (entries.filter fun entry => test entry.1).map Prod.snd

section Values

variable {test : κ → Bool} {entries entries' : List (κ × β)} {entry : κ × β}

@[simp] theorem valuesOf_nil : valuesOf test ([] : List (κ × β)) = [] := rfl

theorem valuesOf_cons_of_pos (named : test entry.1 = true) :
    valuesOf test (entry :: entries) = entry.2 :: valuesOf test entries := by
  simp [valuesOf, named]

theorem valuesOf_cons_of_neg (other : test entry.1 = false) :
    valuesOf test (entry :: entries) = valuesOf test entries := by
  simp [valuesOf, other]

theorem valuesOf_append (front back : List (κ × β)) :
    valuesOf test (front ++ back) = valuesOf test front ++ valuesOf test back := by
  simp [valuesOf]

theorem mem_valuesOf {b : β} :
    b ∈ valuesOf test entries ↔ ∃ key, (key, b) ∈ entries ∧ test key = true := by
  simp [valuesOf, and_comm]

theorem valuesOf_perm (perm : entries.Perm entries') :
    (valuesOf test entries).Perm (valuesOf test entries') :=
  (perm.filter _).map _

/-- Entries that are related one by one have values under a name that are. -/
theorem forall₂_valuesOf {κ' β' : Type} {related : β → β' → Prop} {test' : κ' → Bool}
    {others : List (κ' × β')}
    (alike : List.Forall₂
      (fun entry other => test entry.1 = test' other.1 ∧ related entry.2 other.2) entries others) :
    List.Forall₂ related (valuesOf test entries) (valuesOf test' others) :=
  List.rel_map (fun _ _ both => both.2)
    (List.rel_filter (fun _ _ both => iff_of_eq (congrArg (· = true) both.1)) alike)

end Values

/-! ## Slots -/

/-- What becomes of a slot when values are put into it one after the other. -/
inductive Fills (reads : β → α → Prop) : Option α → List β → Option α → Prop where
  | keep (slot : Option α) : Fills reads slot [] slot
  | fill {b : β} {a : α} : reads b a → Fills reads none [b] (some a)

section Slots

variable {reads : β → α → Prop} {slot slot' : Option α} {values values' : List β} {a : α} {b : β}

@[simp] theorem fills_nil_iff : Fills reads slot [] slot' ↔ slot' = slot := by
  constructor
  · rintro ⟨⟩
    rfl
  · rintro rfl
    exact .keep slot'

/-- Nothing more fits into a slot that is full. -/
@[simp] theorem fills_some_iff :
    Fills reads (some a) values slot' ↔ values = [] ∧ slot' = some a := by
  constructor
  · rintro ⟨⟩
    exact ⟨rfl, rfl⟩
  · rintro ⟨rfl, rfl⟩
    exact .keep _

/-- Only an empty slot takes a value. -/
theorem fills_cons_iff :
    Fills reads slot (b :: values) slot' ↔
      slot = none ∧ ∃ a, reads b a ∧ Fills reads (some a) values slot' := by
  constructor
  · rintro ⟨⟩
    rename_i a read
    exact ⟨rfl, a, read, .keep _⟩
  · rintro ⟨rfl, a, read, filled⟩
    obtain ⟨rfl, rfl⟩ := fills_some_iff.mp filled
    exact .fill read

theorem fills_none_some_iff :
    Fills reads none values (some a) ↔ ∃ b, values = [b] ∧ reads b a := by
  constructor
  · rintro ⟨⟩
    rename_i b read
    exact ⟨b, rfl, read⟩
  · rintro ⟨b, rfl, read⟩
    exact .fill read

theorem fills_valuesOf_singleton_iff {test : κ → Bool} {key : κ} :
    Fills reads slot (valuesOf test [(key, b)]) slot' ↔
      if test key then slot = none ∧ ∃ a, reads b a ∧ slot' = some a else slot' = slot := by
  cases named : test key with
  | true =>
      rw [valuesOf_cons_of_pos named, fills_cons_iff, if_pos rfl]
      simp only [valuesOf_nil, fills_nil_iff]
  | false =>
      rw [valuesOf_cons_of_neg named, valuesOf_nil, fills_nil_iff, if_neg Bool.false_ne_true]

theorem fills_append_iff :
    Fills reads slot (values ++ values') slot' ↔
      ∃ middle, Fills reads slot values middle ∧ Fills reads middle values' slot' := by
  cases values with
  | nil => simp only [List.nil_append, fills_nil_iff, exists_eq_left]
  | cons b values =>
      rw [List.cons_append, fills_cons_iff]
      simp only [fills_cons_iff, fills_some_iff, List.append_eq_nil_iff]
      constructor
      · rintro ⟨rfl, a, read, ⟨rfl, rfl⟩, rfl⟩
        exact ⟨some a, ⟨rfl, a, read, rfl, rfl⟩, .keep _⟩
      · rintro ⟨_, ⟨rfl, a, read, rfl, rfl⟩, filled⟩
        obtain ⟨rfl, rfl⟩ := fills_some_iff.mp filled
        exact ⟨rfl, a, read, ⟨rfl, rfl⟩, rfl⟩

/-- The value of an entry may be replaced by one that is read in the same way. -/
theorem Fills.replace {test : κ → Bool} {front back : List (κ × β)} {key : κ} {b' : β}
    (fills : Fills reads slot (valuesOf test (front ++ (key, b) :: back)) slot')
    (same : test key = true → ∀ a, reads b a → reads b' a) :
    Fills reads slot (valuesOf test (front ++ (key, b') :: back)) slot' := by
  rw [valuesOf_append] at fills ⊢
  cases named : test key with
  | true =>
      rw [valuesOf_cons_of_pos named, fills_append_iff] at fills ⊢
      obtain ⟨middle, first, rest⟩ := fills
      obtain ⟨empty, a, read, rest⟩ := fills_cons_iff.mp rest
      exact ⟨middle, first, fills_cons_iff.mpr ⟨empty, a, same named a read, rest⟩⟩
  | false =>
      rw [valuesOf_cons_of_neg named] at fills ⊢
      exact fills

/-- A slot may stand for something even while it is empty. -/
theorem exists_fills_getD_iff {standard : α} :
    (∃ slot, Fills reads none values slot ∧ a = slot.getD standard) ↔
      (values = [] ∧ a = standard) ∨ ∃ b, values = [b] ∧ reads b a := by
  constructor
  · rintro ⟨_, ⟨⟩ | ⟨read⟩, rfl⟩
    · exact .inl ⟨rfl, rfl⟩
    · exact .inr ⟨_, rfl, read⟩
  · rintro (⟨rfl, rfl⟩ | ⟨b, rfl, read⟩)
    · exact ⟨none, .keep none, rfl⟩
    · exact ⟨some a, .fill read, rfl⟩

/-- The order of the values does not matter, since there is at most one. -/
theorem Fills.of_perm (perm : values.Perm values') (fills : Fills reads slot values slot') :
    Fills reads slot values' slot' := by
  cases fills with
  | keep =>
      obtain rfl := perm.nil_eq
      exact .keep slot
  | fill read =>
      obtain rfl := perm.singleton_eq
      exact .fill read

/-- Values that are read alike fill a slot alike. -/
theorem fills_iff_of_forall₂ {γ : Type} {related : β → γ → Prop} {reads' : γ → α → Prop}
    {values' : List γ} (alike : List.Forall₂ related values values')
    (same : ∀ b c a, related b c → (reads b a ↔ reads' c a)) :
    Fills reads slot values slot' ↔ Fills reads' slot values' slot' := by
  induction alike generalizing slot with
  | nil => rw [fills_nil_iff, fills_nil_iff]
  | cons head _ ih =>
      rw [fills_cons_iff, fills_cons_iff]
      exact and_congr_right fun _ => exists_congr fun a => and_congr (same _ _ a head) ih

theorem Fills.length_le (fills : Fills reads slot values slot') : values.length ≤ 1 := by
  cases fills with
  | keep => exact Nat.zero_le 1
  | fill => exact Nat.le_refl 1

end Slots

end StatusLookup.Fields
