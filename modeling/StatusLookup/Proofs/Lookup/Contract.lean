import StatusLookup.Proofs.Data.Steps
import StatusLookup.Proofs.Lookup.Run
import StatusLookup.Proofs.Status.Parse
import StatusLookup.Proofs.Text.Utf8

/-!
# What a lookup makes of its read

A lookup over any store performs one read, and the answer alone decides the outcome. A value is
decoded with replacement characters and uppercased before it is compared with the names, yet only
the encoding of a text that uppercases to a name is read as a status: a replacement character
survives uppercasing, and no name holds one.
-/

namespace StatusLookup.Repository

/-- The repository of a store that answers as a function says, with its reads noted. -/
def overFunction (f : String → Except StoreError (Option Bytes)) (p : KeyPrefix) :
    Repository Observed :=
  ⟨(Store.ofFunction f).recorded, p⟩

/-- The value is the encoding of a text that names the status, whatever its case. -/
def Spells (value : Bytes) (s : Status) : Prop :=
  ∃ text, Utf8.encode text = value ∧ Text.uppercase text = s.name

/-- The outcome of a lookup is the one that the answer to its read calls for. -/
structure IsDecidedBy (deployment : String) (answer : Except StoreError (Option Bytes))
    (outcome : Except LookupError Status) : Prop where
  store_iff : ∀ e, outcome = .error (.store e) ↔ answer = .error e
  notFound_iff : ∀ id, outcome = .error (.notFound id) ↔
    id = deployment ∧ (answer = .ok none ∨ answer = .ok (some []))
  ok_iff : ∀ s, outcome = .ok s ↔
    ∃ value, answer = .ok (some value) ∧ value ≠ [] ∧ Spells value s
  invalidStatus_iff : ∀ e, outcome = .error (.invalidStatus e) ↔
    ∃ value, answer = .ok (some value) ∧ value ≠ [] ∧ (∀ s, ¬ Spells value s) ∧
      e.raw = Utf8.decodeLossy value

variable {deployment : String} {value : Bytes}

/-- Lossy decoding and uppercasing lead to a name only from a text that leads there itself. -/
theorem spells_iff {s : Status} :
    Spells value s ↔ Text.uppercase (Utf8.decodeLossy value) = s.name := by
  constructor
  · rintro ⟨text, rfl, upper⟩
    rwa [Utf8.decodeLossy_encode]
  · intro upper
    by_contra unspelled
    refine Status.replacement_notMem upper (Utf8.replacement_mem_decodeLossy ?_)
    rintro text rfl
    rw [Utf8.decodeLossy_encode] at upper
    exact unspelled ⟨text, rfl, upper⟩

theorem ofValue_nil : ofValue deployment [] = .error (.notFound deployment) :=
  rfl

/-- The outcome for a value that is not empty. -/
theorem ofValue_eq (filled : value ≠ []) :
    ofValue deployment value =
      (Status.parse (Utf8.decodeLossy value) true).mapError .invalidStatus := by
  rw [ofValue, if_neg (by simpa using filled)]
  cases Status.parse (Utf8.decodeLossy value) true <;> rfl

theorem mapError_eq_error_iff {parsed : Except InvalidStatus Status} {e : LookupError} :
    parsed.mapError LookupError.invalidStatus = .error e ↔
      ∃ refusal, e = .invalidStatus refusal ∧ parsed = .error refusal := by
  cases parsed <;> simp [Except.mapError, eq_comm]

theorem isDecidedBy_ofValue (deployment : String) (value : Bytes) :
    IsDecidedBy deployment (.ok (some value)) (ofValue deployment value) := by
  by_cases filled : value = []
  · subst filled
    constructor <;> simp [ofValue_nil, eq_comm]
  · rw [ofValue_eq filled]
    constructor
    case store_iff => simp [mapError_eq_error_iff]
    case notFound_iff => simp [mapError_eq_error_iff, filled]
    case ok_iff => simp [mapError_eq_ok_iff, Status.parse_eq_ok_iff, spells_iff, filled]
    case invalidStatus_iff =>
      simp [mapError_eq_error_iff, Status.parse_eq_error_iff, spells_iff, filled, and_comm]

/-- Every answer calls for the outcome that a lookup makes of it. -/
theorem isDecidedBy_ofRead (deployment : String) (answer : Except StoreError (Option Bytes)) :
    IsDecidedBy deployment answer (ofRead deployment answer) := by
  cases answer with
  | error e => constructor <;> simp [ofRead, eq_comm]
  | ok found =>
      cases found with
      | none => constructor <;> simp [ofRead, eq_comm]
      | some value => exact isDecidedBy_ofValue deployment value

/-- Bytes that no text is encoded as spell nothing. -/
theorem not_spells_of_decode?_eq_none (invalid : Utf8.decode? value = none) (s : Status) :
    ¬ Spells value s := by
  rintro ⟨text, encoded, _⟩
  rw [Utf8.decode?_eq_some_iff.mpr encoded] at invalid
  contradiction

variable {outcome : Except LookupError Status}

theorem presence_eq_true_iff : presence outcome = .ok true ↔ ∃ s, outcome = .ok s := by
  cases outcome with
  | ok s => simp [presence]
  | error e => cases e <;> simp [presence, LookupError.isNotFound]

theorem presence_eq_false_iff :
    presence outcome = .ok false ↔ ∃ id, outcome = .error (.notFound id) := by
  cases outcome with
  | ok s => simp [presence]
  | error e => cases e <;> simp [presence, LookupError.isNotFound]

theorem presence_eq_error_iff {e : LookupError} :
    presence outcome = .error e ↔ outcome = .error e ∧ ∀ id, e ≠ .notFound id := by
  cases outcome with
  | ok s => simp [presence]
  | error e' => cases e' <;> simp +contextual [presence, LookupError.isNotFound, eq_comm]

/-- A lookup warns of a record that names no status, and of nothing else. -/
theorem exists_warn_iff (deployment key : String) :
    (∃ line ∈ readLine key :: warnings deployment key outcome, line.level = .warn) ↔
      ∃ e, outcome = .error (.invalidStatus e) := by
  cases outcome with
  | ok s => simp [warnings, readLine]
  | error e => cases e <;> simp [warnings, readLine]

section Contract

variable (f : String → Except StoreError (Option Bytes)) (p : KeyPrefix) (deployment : String)
  (w : World)

/-- A lookup and all that it leaves behind. -/
theorem observe_status_overFunction :
    let key := p.statusKey deployment
    let outcome := ofRead deployment (f key)
    ((overFunction f p).status deployment).observe w =
      (outcome, ⟨[key], [], readLine key :: warnings deployment key outcome⟩) := by
  have values : ((f (p.statusKey deployment)).map
      (·.map (Record.mk (p.statusKey deployment)))).map (·.map Record.value) =
        f (p.statusKey deployment) := by
    cases f (p.statusKey deployment) with
    | error e => rfl
    | ok found => cases found <;> rfl
  have run : ((overFunction f p).status deployment).observe w = _ :=
    observe_status (Store.ofFunction f) p deployment rfl
  rw [values] at run
  exact run

theorem observe_hasStatus_overFunction :
    ((overFunction f p).hasStatus deployment).observe w =
      (presence (ofRead deployment (f (p.statusKey deployment))),
        (((overFunction f p).status deployment).trace w)) := by
  have run := observe_status_overFunction f p deployment w
  rw [Observed.trace, run]
  exact hasStatus_run run

/-- The contract of a lookup over any store: one read, at the key of the record, whose answer alone
decides the outcome; a warning for a record that names no status and for nothing else; and the same
read, with the same outcomes told apart, when only the presence of a status is asked for. -/
theorem lookup_decided_by_one_read :
    (((overFunction f p).status deployment).trace w).reads = [p.statusKey deployment] ∧
      IsDecidedBy deployment (f (p.statusKey deployment))
        (((overFunction f p).status deployment).result w) ∧
      (∀ value, f (p.statusKey deployment) = .ok (some value) → Utf8.decode? value = none →
        ∃ e, ((overFunction f p).status deployment).result w = .error (.invalidStatus e)) ∧
      ((∃ line ∈ (((overFunction f p).status deployment).trace w).lines, line.level = .warn) ↔
        ∃ e, ((overFunction f p).status deployment).result w = .error (.invalidStatus e)) ∧
      ((overFunction f p).hasStatus deployment).trace w =
        ((overFunction f p).status deployment).trace w ∧
      (((overFunction f p).hasStatus deployment).result w = .ok true ↔
        ∃ s, ((overFunction f p).status deployment).result w = .ok s) ∧
      (((overFunction f p).hasStatus deployment).result w = .ok false ↔
        ∃ id, ((overFunction f p).status deployment).result w = .error (.notFound id)) ∧
      ∀ e, ((overFunction f p).hasStatus deployment).result w = .error e ↔
        ((overFunction f p).status deployment).result w = .error e ∧ ∀ id, e ≠ .notFound id := by
  have trace : ((overFunction f p).status deployment).trace w =
      ⟨[p.statusKey deployment], [], readLine (p.statusKey deployment) ::
        warnings deployment (p.statusKey deployment)
          (ofRead deployment (f (p.statusKey deployment)))⟩ :=
    congrArg Prod.snd (observe_status_overFunction f p deployment w)
  have outcome : ((overFunction f p).status deployment).result w =
      ofRead deployment (f (p.statusKey deployment)) :=
    congrArg Prod.fst (observe_status_overFunction f p deployment w)
  have answered : ((overFunction f p).hasStatus deployment).result w =
      presence (ofRead deployment (f (p.statusKey deployment))) :=
    congrArg Prod.fst (observe_hasStatus_overFunction f p deployment w)
  have followed : ((overFunction f p).hasStatus deployment).trace w =
      ((overFunction f p).status deployment).trace w :=
    congrArg Prod.snd (observe_hasStatus_overFunction f p deployment w)
  have decided := isDecidedBy_ofRead deployment (f (p.statusKey deployment))
  rw [outcome, answered]
  refine ⟨congrArg Trace.reads trace, decided, ?_, ?_, followed, presence_eq_true_iff,
    presence_eq_false_iff, fun e => presence_eq_error_iff⟩
  · intro value found invalid
    refine ⟨⟨Utf8.decodeLossy value⟩, (decided.invalidStatus_iff _).mpr ⟨value, found, ?_,
      not_spells_of_decode?_eq_none invalid, rfl⟩⟩
    rintro rfl
    contradiction
  · rw [trace]
    exact exists_warn_iff deployment (p.statusKey deployment)

end Contract

end StatusLookup.Repository
