import StatusLookup.Proofs.Json.Written
import StatusLookup.Proofs.Lookup.Report
import StatusLookup.Proofs.Status.Spelling
import StatusLookup.Status.FromJson

/-!
# Strict readers

A name can be read strictly in three places: as a text, by conversion of a text, and as a string of
JSON, in whatever way its characters are spelled there. All three accept the names and nothing else,
and each of them refuses every other text in the same words. Only a record is read without regard to
its case.

A list of statuses is read from the array of their names and from nothing else, so a list that is
written can be read, and a value that is read is the one that would be written.
-/

namespace StatusLookup

namespace Json

variable {α : Type} {reader : Json → Except JsonError α} {value : Json}
  {result : Except JsonError α}

/-- What a reader makes of a value, be it given as it is or by any text. -/
structure Decodes (reader : Json → Except JsonError α) (value : Json)
    (result : Except JsonError α) : Prop where
  asValue : reader value = result
  asText : ∀ text, Reads text value → decode reader text = result

/-- A text adds nothing to its value. -/
theorem decodes_iff : Decodes reader value result ↔ reader value = result := by
  constructor
  · intro decodes
    exact decodes.asValue
  · intro made
    exact ⟨made, fun text reads => (reads.decode_eq reader).trans made⟩

end Json

namespace Status

variable {s : Status} {statuses : List Status} {text : String} {value : Json}

/-! ## One status -/

theorem ofJson_string (text : String) :
    ofJson (.string text) = (parse text false).mapError fun e => .mismatch (.invalidStatus e) := by
  rw [ofJson]
  cases parse text false <;> rfl

/-- What is read as a status is what the status is written as. -/
theorem ofJson_eq_ok_iff : ofJson value = .ok s ↔ value = s.toJson := by
  cases value with
  | string text =>
      rw [ofJson_string, mapError_eq_ok_iff, parse_eq_ok_iff, toJson, Json.string.injEq]
      exact Iff.rfl
  | _ => exact iff_of_false nofun nofun

/-- All strict readers read the text as the status. -/
structure IsReadAs (text : String) (s : Status) : Prop where
  parsed : parse text false = .ok s
  converted : ofString text = .ok s
  decoded : Json.Decodes ofJson (.string text) (.ok s)

/-- All strict readers refuse the text, in the same words. -/
structure IsRefused (text : String) : Prop where
  parsed : parse text false = .error ⟨text⟩
  converted : ofString text = .error ⟨text⟩
  decoded : ∃ e, Json.Decodes ofJson (.string text) (.error e) ∧
    e.message = InvalidStatus.message ⟨text⟩

theorem isReadAs_name (s : Status) : IsReadAs s.name s := by
  refine ⟨s.parse_name false, s.parse_name false, ?_⟩
  exact Json.decodes_iff.mpr (ofJson_eq_ok_iff.mpr rfl)

theorem isRefused_of_ne (unnamed : ∀ s : Status, text ≠ s.name) : IsRefused text := by
  have refused : parse text false = .error ⟨text⟩ := parse_eq_error_iff.mpr ⟨rfl, unnamed⟩
  refine ⟨refused, refused, .mismatch (.invalidStatus ⟨text⟩), ?_, rfl⟩
  rw [Json.decodes_iff, ofJson_string, refused]
  rfl

/-! ## Lists of statuses -/

/-- The array of the names of some statuses is the only value that is read as these statuses. -/
theorem listOfJson_eq_ok_iff : listOfJson value = .ok statuses ↔ value = listToJson statuses := by
  cases value with
  | array items =>
      rw [listOfJson, mapM_eq_ok_iff, listToJson, Json.array.injEq, ← List.forall₂_eq_eq_eq,
        List.forall₂_map_right_iff]
      simp only [ofJson_eq_ok_iff]
  | _ => exact iff_of_false nofun nofun

/-- A list of statuses as it is written, without blanks. -/
def writeList (statuses : List Status) : String :=
  String.ofList (Json.writeArray (statuses.map name))

theorem reads_writeString_name (s : Status) : Json.Reads (Json.writeString s.name) s.toJson := by
  have reads := Json.reads_writeString s.name (List.forall_mem_nil _)
  rwa [List.append_nil, String.ofList_toList] at reads

theorem reads_writeList (statuses : List Status) :
    Json.Reads (writeList statuses) (listToJson statuses) := by
  have reads := Json.reads_writeArray (statuses.map name) (List.forall_mem_nil _)
  rwa [List.append_nil, List.map_map] at reads

/-- The strict readers agree on every text: all of them read it as the status that it names, or all
of them refuse it. Lists are read and written in the same way, status by status, and the first item
that is no status decides why an array is none. -/
theorem strict_readers_agree :
    (∀ text, (∃ s : Status, text = s.name ∧ IsReadAs text s) ∨
      (∀ s : Status, text ≠ s.name) ∧ IsRefused text) ∧
    (IsRefused "deployed" ∧
      ∀ (store : Store Observed) (w : World) (p : KeyPrefix) (deployment : String),
        store.Holds w (p.statusKey deployment) (Utf8.encode "deployed") →
        ((Repository.mk store p).status deployment).result w = .ok deployed) ∧
    (∀ value statuses, Json.Decodes listOfJson value (.ok statuses) ↔
      value = .array (statuses.map fun s => .string s.name)) ∧
    (∀ items e, Json.Decodes listOfJson (.array items) (.error e) ↔
      ∃ front item back, items = front ++ item :: back ∧
        (∀ item ∈ front, ∃ s, Json.Decodes ofJson item (.ok s)) ∧
        Json.Decodes ofJson item (.error e)) ∧
    (∀ s, Json.decode ofJson (Json.writeString s.name) = .ok s) ∧
    (∀ statuses, Json.Decodes listOfJson (listToJson statuses) (.ok statuses) ∧
      Json.decode listOfJson (writeList statuses) = .ok statuses) ∧
    (∀ value statuses, listOfJson value = .ok statuses → listToJson statuses = value) ∧
    ∀ text statuses, Json.decode listOfJson text = .ok statuses ↔
      Json.Reads text (listToJson statuses) := by
  refine ⟨?_, ⟨isRefused_of_ne fun s => ?_, ?_⟩, ?_, ?_, ?_, ?_, ?_, ?_⟩
  · intro text
    by_cases named : ∃ s : Status, text = s.name
    · obtain ⟨s, rfl⟩ := named
      exact .inl ⟨s, rfl, s.isReadAs_name⟩
    · have unnamed := not_exists.mp named
      exact .inr ⟨unnamed, isRefused_of_ne unnamed⟩
  · cases s <;> decide
  · intro store w p deployment held
    rw [(Repository.status_yields_of_holds held).result_eq]
    rfl
  · intro value statuses
    exact Json.decodes_iff.trans listOfJson_eq_ok_iff
  · intro items e
    simp only [Json.decodes_iff]
    exact mapM_eq_error_iff
  · intro s
    exact s.isReadAs_name.decoded.asText _ s.reads_writeString_name
  · intro statuses
    have made := Json.decodes_iff.mpr (listOfJson_eq_ok_iff.mpr (Eq.refl (listToJson statuses)))
    exact ⟨made, made.asText _ (reads_writeList statuses)⟩
  · intro value statuses made
    exact (listOfJson_eq_ok_iff.mp made).symm
  · intro text statuses
    rw [Json.decode_eq_ok_iff]
    constructor
    · rintro ⟨value, reads, made⟩
      rwa [listOfJson_eq_ok_iff.mp made] at reads
    · intro reads
      exact ⟨_, reads, listOfJson_eq_ok_iff.mpr rfl⟩

/-- A name with an escape in it, among blanks, and a record in small letters. -/
theorem strict_readers_agree_escaped :
    let text := "[ \"DEPL\\u004fYED\", \"INITIAL\" ]"
    let key := KeyPrefix.standard.statusKey "web"
    let w : World := ⟨⟨.directory [], []⟩, .ok "/", []⟩
    let records := (Memory.empty.put key (Utf8.encode "deployed")).toStore
    Json.decode listOfJson text = .ok [deployed, initial] ∧
      Json.Reads text (listToJson [deployed, initial]) ∧
      records.Holds w key (Utf8.encode "deployed") ∧ IsRefused "deployed" ∧
      ((Repository.mk records .standard).status "web").result w = .ok deployed := by
  intro text key w records
  have found : (Json.decode listOfJson text).toOption = some [deployed, initial] := by
    decide +kernel
  have read : Json.decode listOfJson text = .ok [deployed, initial] := by
    cases decoded : Json.decode listOfJson text with
    | error e =>
        rw [decoded] at found
        contradiction
    | ok statuses =>
        rw [decoded] at found
        exact congrArg Except.ok (Option.some.inj found)
  have held : records.Holds w key (Utf8.encode "deployed") := Memory.empty.holds_put w key _
  obtain ⟨-, ⟨refused, accepted⟩, -, -, -, -, -, texts⟩ := strict_readers_agree
  exact ⟨read, (texts text _).mp read, held, refused, accepted records w .standard "web" held⟩

end Status

end StatusLookup
