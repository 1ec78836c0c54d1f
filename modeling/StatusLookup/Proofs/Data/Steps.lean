import Mathlib.Data.List.Forall2

/-!
# Steps that can fail

Of several steps the first one that fails decides, and those behind it are not taken. To go through
a list is to take one step for each item: a result is made of the results of all items, and a failure
is that of one item behind items that all went well.
-/

namespace StatusLookup

variable {ε α β : Type} {first : Except ε α} {next : α → Except ε β} {b : β} {e : ε}

/-- Of two steps that can fail the second one gives a result when the first one does. -/
theorem bind_eq_ok_iff : (first >>= next) = .ok b ↔ ∃ a, first = .ok a ∧ next a = .ok b := by
  cases first with
  | error e => exact ⟨nofun, nofun⟩
  | ok a =>
      constructor
      · intro reached
        exact ⟨a, rfl, reached⟩
      · rintro ⟨_, ⟨⟩, reached⟩
        exact reached

theorem bind_eq_error_iff :
    (first >>= next) = .error e ↔ first = .error e ∨ ∃ a, first = .ok a ∧ next a = .error e := by
  cases first with
  | error e' =>
      constructor
      · rintro ⟨⟩
        exact .inl rfl
      · rintro (⟨⟨⟩⟩ | ⟨_, ⟨⟩, -⟩)
        rfl
  | ok a =>
      constructor
      · intro fails
        exact .inr ⟨a, rfl, fails⟩
      · rintro (⟨⟨⟩⟩ | ⟨_, ⟨⟩, fails⟩)
        exact fails

/-- What is said about a failure does not make a result. -/
theorem mapError_eq_ok_iff {ε' : Type} {say : ε → ε'} {result : Except ε β} :
    result.mapError say = .ok b ↔ result = .ok b := by
  cases result <;> simp [Except.mapError]

variable {step : α → Except ε β} {items : List α} {results : List β}

theorem mapM_eq_ok_iff :
    items.mapM step = .ok results ↔
      List.Forall₂ (fun item result => step item = .ok result) items results := by
  induction items generalizing results with
  | nil =>
      rw [List.mapM_nil, List.forall₂_nil_left_iff]
      constructor
      · rintro ⟨⟩
        rfl
      · rintro rfl
        rfl
  | cons item items ih =>
      rw [List.mapM_cons, List.forall₂_cons_left_iff, bind_eq_ok_iff]
      constructor
      · rintro ⟨result, went, rest⟩
        obtain ⟨others, went', made⟩ := bind_eq_ok_iff.mp rest
        exact ⟨result, others, went, ih.mp went', (Except.ok.inj made).symm⟩
      · rintro ⟨result, others, went, each, rfl⟩
        exact ⟨result, went, bind_eq_ok_iff.mpr ⟨others, ih.mpr each, rfl⟩⟩

/-- The failure is that of the first item that fails. -/
theorem mapM_eq_error_iff :
    items.mapM step = .error e ↔ ∃ front item back, items = front ++ item :: back ∧
      (∀ item ∈ front, ∃ result, step item = .ok result) ∧ step item = .error e := by
  induction items with
  | nil =>
      refine ⟨nofun, ?_⟩
      rintro ⟨front, item, back, split, -⟩
      exact absurd split.symm
        (List.append_ne_nil_of_right_ne_nil front (List.cons_ne_nil item back))
  | cons head items ih =>
      rw [List.mapM_cons, bind_eq_error_iff]
      constructor
      · rintro (fails | ⟨result, went, rest⟩)
        · exact ⟨[], head, items, rfl, List.forall_mem_nil _, fails⟩
        · rcases bind_eq_error_iff.mp rest with fails | ⟨_, _, ⟨⟩⟩
          obtain ⟨front, item, back, rfl, good, fails⟩ := ih.mp fails
          exact ⟨head :: front, item, back, rfl,
            List.forall_mem_cons.mpr ⟨⟨result, went⟩, good⟩, fails⟩
      · rintro ⟨front, item, back, split, good, fails⟩
        cases front with
        | nil =>
            obtain ⟨rfl, rfl⟩ := List.cons.inj split
            exact .inl fails
        | cons first front =>
            obtain ⟨rfl, rfl⟩ := List.cons.inj split
            obtain ⟨⟨result, went⟩, good⟩ := List.forall_mem_cons.mp good
            have rest := ih.mpr ⟨front, item, back, rfl, good, fails⟩
            exact .inr ⟨result, went, bind_eq_error_iff.mpr (.inl rest)⟩

end StatusLookup
