import StatusLookup.Number.Power
import StatusLookup.Text.Hexadecimal

/-!
# Writing numbers in hexadecimal digits

A number is written in a fixed number of digits or in as many as it takes, the last of which stands
for its remainder. Reading the digits gives the number back if there are enough of them.
-/

namespace StatusLookup.Text

/-- The last digits of a number, so many of them. -/
def hexDigits : Nat → Nat → List Char
  | 0, _ => []
  | width + 1, n => hexDigits width (n / 16) ++ [(Nat.digitChar (n % 16)).toUpper]

theorem length_hexDigits (width n : Nat) : (hexDigits width n).length = width := by
  induction width generalizing n with
  | zero => rfl
  | succ width ih => rw [hexDigits, List.length_append, ih, List.length_singleton]

theorem hexDigit?_digitChar : ∀ d < 16, hexDigit? (Nat.digitChar d).toUpper = some d := by
  decide

/-- Every digit is one of sixteen. -/
theorem exists_eq_digitChar {width n : Nat} {c : Char} (member : c ∈ hexDigits width n) :
    ∃ d < 16, c = (Nat.digitChar d).toUpper := by
  induction width generalizing n with
  | zero => contradiction
  | succ width ih =>
      rcases List.mem_append.mp member with early | last
      · exact ih early
      · exact ⟨n % 16, Nat.mod_lt n (by decide), List.mem_singleton.mp last⟩

/-- One more digit adds its value to sixteen times the number. -/
theorem hexNumber?_concat (digits : List Char) (c : Char) :
    hexNumber? (digits ++ [c]) =
      (hexNumber? digits).bind fun n => (hexDigit? c).map (n * 16 + ·) := by
  simp [hexNumber?, List.foldlM_append]

theorem hexNumber?_hexDigits {width n : Nat} (fits : n < pow2 (4 * width)) :
    hexNumber? (hexDigits width n) = some n := by
  induction width generalizing n with
  | zero =>
      have none : n = 0 := Nat.lt_one_iff.mp fits
      rw [none]
      rfl
  | succ width ih =>
      have grow : pow2 (4 * (width + 1)) = pow2 (4 * width) * 16 := Nat.pow_add 2 (4 * width) 4
      have front : n / 16 < pow2 (4 * width) := by omega
      rw [hexDigits, hexNumber?_concat, ih front, hexDigit?_digitChar _ (Nat.mod_lt n (by decide)),
        Option.bind_some, Option.map_some, Nat.div_add_mod']

/-! ## As many digits as it takes -/

theorem toDigits_cases (n : Nat) :
    (n < 16 ∧ Nat.toDigits 16 n = [Nat.digitChar n]) ∨
      (n / 16 < n ∧ Nat.toDigits 16 n = Nat.toDigits 16 (n / 16) ++ [Nat.digitChar (n % 16)]) := by
  by_cases small : n < 16
  · exact .inl ⟨small, Nat.toDigits_of_lt_base small⟩
  · exact .inr ⟨by omega, Nat.toDigits_of_base_le (by decide) (by omega)⟩

theorem hexDigit?_digitChar_lower : ∀ d < 16, hexDigit? (Nat.digitChar d) = some d := by
  decide

theorem exists_eq_digitChar_of_mem_toDigits {n : Nat} {c : Char} (member : c ∈ Nat.toDigits 16 n) :
    ∃ d < 16, c = Nat.digitChar d := by
  induction n using Nat.strongRecOn with
  | ind n ih =>
      rcases toDigits_cases n with ⟨small, single⟩ | ⟨smaller, split⟩
      · rw [single] at member
        exact ⟨n, small, List.mem_singleton.mp member⟩
      · rw [split] at member
        rcases List.mem_append.mp member with early | last
        · exact ih (n / 16) smaller early
        · exact ⟨n % 16, Nat.mod_lt n (by decide), List.mem_singleton.mp last⟩

theorem hexNumber?_toDigits (n : Nat) : hexNumber? (Nat.toDigits 16 n) = some n := by
  induction n using Nat.strongRecOn with
  | ind n ih =>
      rcases toDigits_cases n with ⟨small, single⟩ | ⟨smaller, split⟩
      · rw [single]
        have first := hexNumber?_concat [] (Nat.digitChar n)
        rw [List.nil_append, hexDigit?_digitChar_lower n small] at first
        rw [first]
        simp [hexNumber?]
      · rw [split, hexNumber?_concat, ih (n / 16) smaller,
          hexDigit?_digitChar_lower _ (Nat.mod_lt n (by decide)), Option.bind_some,
          Option.map_some, Nat.div_add_mod']

end StatusLookup.Text
