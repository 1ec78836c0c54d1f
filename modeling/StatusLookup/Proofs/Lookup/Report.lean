import StatusLookup.Proofs.Lookup.Contract
import StatusLookup.Proofs.Store.Memory

/-!
# What is reported of a record that names no status

A lookup reads bytes and reports a text. Where the bytes are the encoding of a text, the error
carries that text as it is. Where they are not, it carries the text of the longest valid prefix, a
replacement character where that prefix ends, and whatever can be read behind it.

The text that is reported is all that a lookup goes by. So a record can be replaced by the encoding
of the text that it is read as, and no question about the deployment is answered differently. A
record with bytes stays one with bytes, since an empty record would be none.
-/

namespace StatusLookup

/-- A read of the key finds the value, whatever has been done before. -/
def Store.Holds (store : Store Observed) (w : World) (key : String) (value : Bytes) : Prop :=
  (store.get key).Yields w (.ok (some ⟨key, value⟩))

theorem Memory.holds_put (records : Memory) (w : World) (key : String) (value : Bytes) :
    (records.put key value).toStore.Holds w key value := by
  have found : (records.put key value).get? key = some value := by rw [get?_put, if_pos rfl]
  dsimp only [Store.Holds, toStore, Store.ofFunction]
  rw [found]
  exact Observed.yields_pure w _

/-- What an error tells of the record that it is about. -/
structure InvalidStatus.Reports (e : InvalidStatus) (value : Bytes) : Prop where
  /-- A text is reported as it is. -/
  asIs : ∀ text, Utf8.encode text = value → e.raw = text
  /-- Of bytes that are no text, the longest valid prefix is kept and its end is marked. -/
  marked : (∀ text, Utf8.encode text ≠ value) →
    ∃ text rest, Utf8.IsLongestValid text value ∧ e.raw = text ++ "\ufffd" ++ rest

namespace Repository

variable {store : Store Observed} {w : World} {p : KeyPrefix} {deployment : String} {value : Bytes}

theorem status_yields_of_holds (held : store.Holds w (p.statusKey deployment) value) :
    ((Repository.mk store p).status deployment).Yields w (ofValue deployment value) :=
  status_yields ⟨store, p⟩ held

/-- The text in an error is what lossy decoding makes of the record. -/
theorem reports_of_ofValue {e : InvalidStatus}
    (unreadable : ofValue deployment value = .error (.invalidStatus e)) : e.Reports value := by
  obtain ⟨value', read, -, -, raw⟩ :=
    ((isDecidedBy_ofValue deployment value).invalidStatus_iff e).mp unreadable
  obtain rfl : value = value' := by simpa using read
  constructor
  case asIs =>
    rintro text rfl
    rw [raw, Utf8.decodeLossy_encode]
  case marked =>
    intro invalid
    rw [raw]
    exact Utf8.exists_isLongestValid invalid

/-- A lookup goes by the text that a record is read as. -/
theorem ofValue_encode_decodeLossy (filled : value ≠ []) :
    ofValue deployment (Utf8.encode (Utf8.decodeLossy value)) = ofValue deployment value := by
  rw [ofValue_eq filled, ofValue_eq (Utf8.encode_decodeLossy_ne_nil filled),
    Utf8.decodeLossy_encode]

/-- A record that names no status is reported as it is read, and a record that is replaced by what
it is read as answers every question as before. -/
theorem record_reported_and_replaceable (filled : value ≠ [])
    (held : store.Holds w (p.statusKey deployment) value) :
    (∀ e, ((Repository.mk store p).status deployment).result w = .error (.invalidStatus e) →
        e.Reports value) ∧
      ∀ (replaced : Store Observed) (w' : World),
        replaced.Holds w' (p.statusKey deployment) (Utf8.encode (Utf8.decodeLossy value)) →
        ((Repository.mk replaced p).status deployment).result w' =
            ((Repository.mk store p).status deployment).result w ∧
          ((Repository.mk replaced p).hasStatus deployment).result w' =
            ((Repository.mk store p).hasStatus deployment).result w := by
  have looked := status_yields_of_holds held
  constructor
  · intro e unreadable
    rw [looked.result_eq] at unreadable
    exact reports_of_ofValue unreadable
  · intro replaced w' held'
    have looked' := status_yields_of_holds held'
    rw [ofValue_encode_decodeLossy filled] at looked'
    rw [looked.result_eq, looked'.result_eq, (hasStatus_yields _ looked).result_eq,
      (hasStatus_yields _ looked').result_eq]
    exact ⟨rfl, rfl⟩

/-- A record that is cut off within a character and goes on after it. -/
theorem record_reported_and_replaceable_cutOff :
    let value : Bytes := [0x44, 0xe2, 0x82, 0x20, 0xff]
    let key := KeyPrefix.standard.statusKey "web"
    let w : World := ⟨⟨.directory [], []⟩, .ok "/", []⟩
    let held (bytes : Bytes) : Repository Observed :=
      ⟨(Memory.empty.put key bytes).toStore, .standard⟩
    value ≠ [] ∧ Utf8.decodeLossy value = "D\ufffd \ufffd" ∧
      ((held value).status "web").result w = .error (.invalidStatus ⟨"D\ufffd \ufffd"⟩) ∧
      InvalidStatus.Reports ⟨"D\ufffd \ufffd"⟩ value ∧
      ((held (Utf8.encode "D\ufffd \ufffd")).status "web").result w =
        ((held value).status "web").result w ∧
      ((held (Utf8.encode "D\ufffd \ufffd")).hasStatus "web").result w =
        ((held value).hasStatus "web").result w := by
  intro value key w held
  have filled : value ≠ [] := by decide
  have read : Utf8.decodeLossy value = "D\ufffd \ufffd" := by decide +kernel
  have unreadable : ((held value).status "web").result w =
      .error (.invalidStatus ⟨"D\ufffd \ufffd"⟩) := by
    decide +kernel
  obtain ⟨reported, replaceable⟩ :=
    record_reported_and_replaceable filled (Memory.empty.holds_put w key value)
  have kept := replaceable _ w (Memory.empty.holds_put w key _)
  rw [read] at kept
  exact ⟨filled, read, unreadable, reported _ unreadable, kept⟩

end Repository

end StatusLookup
