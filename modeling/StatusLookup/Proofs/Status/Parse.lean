import StatusLookup.Status

/-!
# Reading status names

A text is read as a status if and only if it is the canonical name, once uppercased where case is
ignored. The replacement character has no uppercase form other than itself, and no name holds it:
a text that lossy decoding had to mend is never read as a status.
-/

namespace StatusLookup

namespace Text

/-- A character that is its own uppercase form stays. -/
theorem mem_uppercase {text : String} {c : Char} (member : c ∈ text.toList)
    (fixed : upperChar c = [c]) : c ∈ (uppercase text).toList := by
  rw [uppercase, String.toList_ofList]
  exact List.mem_flatMap.mpr ⟨c, member, by simp [fixed]⟩

theorem upperChar_replacement : upperChar '\ufffd' = ['\ufffd'] := by
  decide +kernel

end Text

namespace Status

theorem ofName?_eq_none_iff {text : String} :
    ofName? text = none ↔ ∀ s : Status, text ≠ s.name := by
  simp only [Option.eq_none_iff_forall_ne_some, ne_eq, ofName?_eq_some_iff]
  exact forall_congr' fun s => not_congr eq_comm

theorem parse_eq_ok_iff {text : String} {ignoreCase : Bool} {s : Status} :
    parse text ignoreCase = .ok s ↔
      (if ignoreCase then Text.uppercase text else text) = s.name := by
  rw [eq_comm (b := s.name), ← ofName?_eq_some_iff, parse]
  cases ofName? (if ignoreCase then Text.uppercase text else text) <;> simp

/-- A text that names no status is refused as it was given, not as it was uppercased. -/
theorem parse_eq_error_iff {text : String} {ignoreCase : Bool} {e : InvalidStatus} :
    parse text ignoreCase = .error e ↔
      e.raw = text ∧ ∀ s : Status, (if ignoreCase then Text.uppercase text else text) ≠ s.name := by
  rw [← ofName?_eq_none_iff, parse]
  cases e
  cases ofName? (if ignoreCase then Text.uppercase text else text) <;> simp [eq_comm]

theorem replacement_notMem_name (s : Status) : '\ufffd' ∉ s.name.toList := by
  cases s <;> decide

/-- What uppercases to a name holds no replacement character. -/
theorem replacement_notMem {text : String} {s : Status} (upper : Text.uppercase text = s.name) :
    '\ufffd' ∉ text.toList := by
  intro member
  have kept := Text.mem_uppercase member Text.upperChar_replacement
  rw [upper] at kept
  exact s.replacement_notMem_name kept

end Status

end StatusLookup
