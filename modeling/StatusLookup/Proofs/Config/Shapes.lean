import StatusLookup.Config.EnvValue
import StatusLookup.Proofs.Data.Fields
import StatusLookup.Proofs.Json.Written

/-!
# The two shapes of a value

A value that may come from the environment is a text, or a map that names a variable. The map has
one entry for the name and at most one to fall back on, and whatever else is in it is passed over.
This is what becomes of the entries when they are read one by one, so the order in which they stand
makes no difference, nor does anything under another name.
-/

namespace StatusLookup.EnvValue

open Fields

/-! ## Apart from the notation -/

section Contents

/-- The keys of the entry that names the variable. -/
def isEnv (key : Content) : Bool :=
  match EntryName.ofContent? key with
  | some .env => true
  | _ => false

/-- The keys of the entry to fall back on. -/
def isDefault (key : Content) : Bool :=
  match EntryName.ofContent? key with
  | some .default => true
  | _ => false

def IsText (c : Content) (text : String) : Prop :=
  c.text? = some text

def IsFallback (c : Content) (fallback : Option String) : Prop :=
  fallbackOfContent? c = some fallback

variable {found found' middle : Entries} {entry : Content × Content}
  {entries entries' : List (Content × Content)}

/-! What one more entry does to the slots. -/

theorem readEntry_env_iff (key : EntryName.ofContent? entry.1 = some .env) :
    readEntry found entry = some middle ↔
      found.name = none ∧ ∃ text, IsText entry.2 text ∧ middle = ⟨some text, found.fallback⟩ := by
  obtain ⟨_ | _, fallback⟩ := found
  · simp [readEntry, key, IsText, Option.bind_eq_some_iff, eq_comm (a := middle)]
  · simp [readEntry, key]

theorem readEntry_default_iff (key : EntryName.ofContent? entry.1 = some .default) :
    readEntry found entry = some middle ↔
      found.fallback = none ∧
        ∃ fallback, IsFallback entry.2 fallback ∧ middle = ⟨found.name, some fallback⟩ := by
  obtain ⟨name, _ | _⟩ := found
  · simp [readEntry, key, IsFallback, Option.bind_eq_some_iff, eq_comm (a := middle)]
  · simp [readEntry, key]

theorem readEntry_other (key : EntryName.ofContent? entry.1 = some .other) :
    readEntry found entry = some found := by
  simp [readEntry, key]

/-- What all entries do to the slots: each is filled from the values under its name. -/
theorem foldlM_readEntry_eq_some_iff :
    entries.foldlM readEntry found = some found' ↔
      (∀ entry ∈ entries, (EntryName.ofContent? entry.1).isSome) ∧
        Fills IsText found.name (valuesOf isEnv entries) found'.name ∧
        Fills IsFallback found.fallback (valuesOf isDefault entries) found'.fallback := by
  induction entries generalizing found with
  | nil =>
      obtain ⟨name, fallback⟩ := found
      obtain ⟨name', fallback'⟩ := found'
      simp [eq_comm (a := name'), eq_comm (a := fallback')]
  | cons entry entries ih =>
      rw [List.foldlM_cons, List.forall_mem_cons, Option.bind_eq_bind, Option.bind_eq_some_iff]
      cases key : EntryName.ofContent? entry.1 with
      | none => simp [readEntry, key]
      | some which =>
          cases which with
          | env =>
              have named : isEnv entry.1 = true := by simp [isEnv, key]
              have other : isDefault entry.1 = false := by simp [isDefault, key]
              rw [valuesOf_cons_of_pos named, valuesOf_cons_of_neg other, fills_cons_iff]
              simp only [readEntry_env_iff key, ih]
              constructor
              · rintro ⟨_, ⟨empty, text, read, rfl⟩, known, name, fallback⟩
                exact ⟨⟨rfl, known⟩, ⟨empty, text, read, name⟩, fallback⟩
              · rintro ⟨⟨-, known⟩, ⟨empty, text, read, name⟩, fallback⟩
                exact ⟨_, ⟨empty, text, read, rfl⟩, known, name, fallback⟩
          | default =>
              have named : isEnv entry.1 = false := by simp [isEnv, key]
              have other : isDefault entry.1 = true := by simp [isDefault, key]
              rw [valuesOf_cons_of_neg named, valuesOf_cons_of_pos other, fills_cons_iff]
              simp only [readEntry_default_iff key, ih]
              constructor
              · rintro ⟨_, ⟨empty, text, read, rfl⟩, known, name, fallback⟩
                exact ⟨⟨rfl, known⟩, name, empty, text, read, fallback⟩
              · rintro ⟨⟨-, known⟩, name, empty, text, read, fallback⟩
                exact ⟨_, ⟨empty, text, read, rfl⟩, known, name, fallback⟩
          | other =>
              have named : isEnv entry.1 = false := by simp [isEnv, key]
              have other : isDefault entry.1 = false := by simp [isDefault, key]
              rw [valuesOf_cons_of_neg named, valuesOf_cons_of_neg other]
              simp [readEntry_other key, ih]

/-- Entries that together name a variable and say what to fall back on. -/
structure Refers (entries : List (Content × Content)) (name : String) (fallback : Option String) :
    Prop where
  known : ∀ entry ∈ entries, (EntryName.ofContent? entry.1).isSome
  name : Fills IsText none (valuesOf isEnv entries) (some name)
  fallback : ∃ slot, Fills IsFallback none (valuesOf isDefault entries) slot ∧
    fallback = slot.getD none

theorem ofContent?_map_eq_some_iff {v : EnvValue} :
    ofContent? (.map entries) = some v ↔
      ∃ name fallback, v = fromVariable name fallback ∧ Refers entries name fallback := by
  simp only [ofContent?, Option.bind_eq_bind, Option.bind_eq_some_iff, Option.pure_def,
    Option.some.injEq, foldlM_readEntry_eq_some_iff]
  constructor
  · rintro ⟨⟨_, slot⟩, ⟨known, named, filled⟩, name, rfl, rfl⟩
    exact ⟨name, slot.getD none, rfl, known, named, slot, filled, rfl⟩
  · rintro ⟨name, _, rfl, known, named, slot, filled, rfl⟩
    exact ⟨⟨some name, slot⟩, ⟨known, named, filled⟩, name, rfl, rfl⟩

theorem Refers.of_perm {name : String} {fallback : Option String} (perm : entries.Perm entries')
    (refers : Refers entries name fallback) : Refers entries' name fallback := by
  obtain ⟨known, named, slot, filled, falls⟩ := refers
  refine ⟨fun entry member => known entry (perm.mem_iff.mpr member), ?_, slot, ?_, falls⟩
  · exact named.of_perm (valuesOf_perm perm)
  · exact filled.of_perm (valuesOf_perm perm)

/-- The order of the entries makes no difference. -/
theorem ofContent?_map_eq_of_perm (perm : entries.Perm entries') :
    ofContent? (.map entries) = ofContent? (.map entries') := by
  refine Option.ext fun v => ?_
  simp only [ofContent?_map_eq_some_iff]
  constructor
  · rintro ⟨name, fallback, rfl, refers⟩
    exact ⟨name, fallback, rfl, refers.of_perm perm⟩
  · rintro ⟨name, fallback, rfl, refers⟩
    exact ⟨name, fallback, rfl, refers.of_perm perm.symm⟩

end Contents

/-! ## In JSON -/

/-- A JSON value that says what to fall back on: a text, or nothing. -/
inductive SaysFallback : Json → Option String → Prop where
  | nothing : SaysFallback .null none
  | text (text : String) : SaysFallback (.string text) (some text)

/-- The members of an object that names a variable: one member for the name, and at most one to
fall back on. -/
structure RefersTo (members : List (String × Json)) (name : String) (fallback : Option String) :
    Prop where
  name : valuesOf (· == "env") members = [.string name]
  fallback : (valuesOf (· == "default") members = [] ∧ fallback = none) ∨
    ∃ value, valuesOf (· == "default") members = [value] ∧ SaysFallback value fallback

section Objects

variable {value : Json} {c : Content} {members members' : List (String × Json)}
  {entries : List (Content × Content)}

theorem string_iff_isText (content : value.content? = some c) (text : String) :
    value = .string text ↔ IsText c text := by
  have texts : IsText c text ↔ c = .text text := by cases c <;> simp [IsText, Content.text?]
  rw [texts, ← Json.content?_eq_text_iff, content, Option.some.injEq]

theorem saysFallback_iff_isFallback (content : value.content? = some c) (fallback : Option String) :
    SaysFallback value fallback ↔ IsFallback c fallback := by
  constructor
  · rintro (_ | text)
    · obtain rfl := Option.some.inj content
      rfl
    · obtain rfl := Option.some.inj content
      rfl
  · intro falls
    cases c with
    | null =>
        obtain rfl := Json.content?_eq_null_iff.mp content
        obtain rfl := Option.some.inj falls
        exact .nothing
    | text text =>
        obtain rfl := Json.content?_eq_text_iff.mp content
        obtain rfl := Option.some.inj falls
        exact .text text
    | _ => exact absurd falls nofun

theorem entryName_text (name : String) :
    EntryName.ofContent? (.text name) =
      some (if name = "env" then .env else if name = "default" then .default else .other) := by
  unfold EntryName.ofContent?
  split <;> simp_all

theorem isEnv_text (name : String) : isEnv (.text name) = (name == "env") := by
  rw [isEnv, entryName_text]
  by_cases env : name = "env"
  · simp [env]
  · by_cases default : name = "default" <;> simp [env, default]

theorem isDefault_text (name : String) : isDefault (.text name) = (name == "default") := by
  rw [isDefault, entryName_text]
  by_cases env : name = "env"
  · simp [env]
  · by_cases default : name = "default" <;> simp [env, default]

/-- The values under a name have the contents under it. -/
theorem forall₂_content (contents : Json.memberContents? members = some entries) {name : String}
    {test : Content → Bool} (same : ∀ key, test (.text key) = (key == name)) :
    List.Forall₂ (fun value c => Json.content? value = some c)
      (valuesOf (· == name) members) (valuesOf test entries) := by
  refine forall₂_valuesOf ((Json.memberContents?_eq_some_iff.mp contents).imp ?_)
  rintro member ⟨_, c⟩ ⟨rfl, content⟩
  exact ⟨(same member.1).symm, content⟩

/-- Every key of an object is the name of some entry. -/
theorem isSome_entryName (contents : Json.memberContents? members = some entries) :
    ∀ entry ∈ entries, (EntryName.ofContent? entry.1).isSome := by
  have alike := Json.memberContents?_eq_some_iff.mp contents
  clear contents
  induction alike with
  | nil => exact List.forall_mem_nil _
  | cons head _ ih =>
      refine List.forall_mem_cons.mpr ⟨?_, ih⟩
      rw [head.1, entryName_text]
      rfl

/-- An object names a variable if and only if its content does. -/
theorem refersTo_iff_refers (contents : Json.memberContents? members = some entries)
    (name : String) (fallback : Option String) :
    RefersTo members name fallback ↔ Refers entries name fallback := by
  have env : valuesOf (· == "env") members = [.string name] ↔
      Fills IsText none (valuesOf isEnv entries) (some name) := by
    rw [← fills_iff_of_forall₂ (forall₂_content contents isEnv_text)
      fun _ _ text content => string_iff_isText content text, fills_none_some_iff]
    simp
  have default (slot : Option (Option String)) :
      Fills SaysFallback none (valuesOf (· == "default") members) slot ↔
        Fills IsFallback none (valuesOf isDefault entries) slot :=
    fills_iff_of_forall₂ (forall₂_content contents isDefault_text)
      fun _ _ fallback content => saysFallback_iff_isFallback content fallback
  constructor
  · rintro ⟨named, falls⟩
    obtain ⟨slot, filled, value⟩ := exists_fills_getD_iff.mpr falls
    exact ⟨isSome_entryName contents, env.mp named, slot, (default slot).mp filled, value⟩
  · rintro ⟨-, named, slot, filled, value⟩
    exact ⟨env.mpr named, exists_fills_getD_iff.mp ⟨slot, (default slot).mpr filled, value⟩⟩

/-- A value is refused for its shape alone. -/
theorem ofJson_eq (content : value.content? = some c) :
    ofJson value = match ofContent? c with
      | some v => .ok v
      | none => .error (.mismatch .noEnvValue) := by
  cases shape : ofContent? c with
  | none => simp only [ofJson, content, shape]
  | some v => simp only [ofJson, content, shape]

theorem ofJson_eq_ok_iff {v : EnvValue} (content : value.content? = some c) :
    ofJson value = .ok v ↔ ofContent? c = some v := by
  rw [ofJson_eq content]
  cases ofContent? c <;> simp

theorem ofJson_eq_literal_iff {text : String} (content : value.content? = some c) :
    ofJson value = .ok (literal text) ↔ value = .string text := by
  rw [ofJson_eq_ok_iff content, string_iff_isText content]
  cases c with
  | map entries => simp [ofContent?_map_eq_some_iff, IsText, Content.text?]
  | _ => simp [ofContent?, IsText, Content.text?]

theorem ofJson_eq_fromVariable_iff {name : String} {fallback : Option String}
    (content : value.content? = some c) :
    ofJson value = .ok (fromVariable name fallback) ↔
      ∃ members, value = .object members ∧ RefersTo members name fallback := by
  rw [ofJson_eq_ok_iff content]
  constructor
  · intro shape
    cases c with
    | map entries =>
        obtain ⟨members, rfl, contents⟩ := Json.content?_eq_map_iff.mp content
        obtain ⟨_, _, ⟨⟩, refers⟩ := ofContent?_map_eq_some_iff.mp shape
        exact ⟨members, rfl, (refersTo_iff_refers contents name fallback).mpr refers⟩
    | _ => exact absurd shape (by simp [ofContent?])
  · rintro ⟨members, rfl, refersTo⟩
    rw [Json.content?, Option.map_eq_some_iff] at content
    obtain ⟨entries, contents, rfl⟩ := content
    exact ofContent?_map_eq_some_iff.mpr
      ⟨name, fallback, rfl, (refersTo_iff_refers contents name fallback).mp refersTo⟩

/-- What is not read is refused, and for one reason. -/
theorem ofJson_eq_error_iff (content : value.content? = some c) :
    ofJson value = .error (.mismatch .noEnvValue) ↔ ∀ v, ofJson value ≠ .ok v := by
  rw [ofJson_eq content]
  cases ofContent? c <;> simp

/-- The order of the members makes no difference. -/
theorem ofJson_object_eq_of_perm (perm : members.Perm members')
    (content : (Json.object members).content? = some c) :
    ofJson (.object members') = ofJson (.object members) := by
  obtain ⟨entries, contents, rfl⟩ := Option.map_eq_some_iff.mp content
  obtain ⟨entries', alike, perm'⟩ :=
    List.perm_comp_forall₂ perm.symm (Json.memberContents?_eq_some_iff.mp contents)
  have content' : (Json.object members').content? = some (.map entries') :=
    Json.content?_eq_map_iff.mpr ⟨members', rfl, Json.memberContents?_eq_some_iff.mpr alike⟩
  rw [ofJson_eq content', ofJson_eq content, ofContent?_map_eq_of_perm perm']

end Objects

/-- A JSON text is read as a value if and only if it is a string or an object that names a variable,
and it is read as what it says. In an object only two names count, and each of them may stand there
once. Every other text is refused for its shape, and the order of members makes no difference. -/
theorem decode_two_shapes {text : String} {value : Json} (reads : Json.Reads text value) :
    (∀ t, Json.decode ofJson text = .ok (literal t) ↔ value = .string t) ∧
      (∀ name fallback, Json.decode ofJson text = .ok (fromVariable name fallback) ↔
        ∃ members, value = .object members ∧ RefersTo members name fallback) ∧
      (Json.decode ofJson text = .error (.mismatch .noEnvValue) ↔
        (∀ t, value ≠ .string t) ∧ ∀ members name fallback,
          value = .object members → ¬ RefersTo members name fallback) ∧
      ∀ members members' text', value = .object members → members.Perm members' →
        Json.Reads text' (.object members') →
        Json.decode ofJson text' = Json.decode ofJson text := by
  obtain ⟨c, content⟩ := reads.exists_content
  rw [reads.decode_eq]
  refine ⟨fun t => ofJson_eq_literal_iff content,
    fun name fallback => ofJson_eq_fromVariable_iff content, ?_, ?_⟩
  · rw [ofJson_eq_error_iff content]
    constructor
    · intro refused
      constructor
      · intro t isText
        exact refused _ ((ofJson_eq_literal_iff content).mpr isText)
      · intro members name fallback isObject refersTo
        exact refused _ ((ofJson_eq_fromVariable_iff content).mpr ⟨members, isObject, refersTo⟩)
    · rintro ⟨noText, noReference⟩ v accepted
      cases v with
      | literal t => exact noText t ((ofJson_eq_literal_iff content).mp accepted)
      | fromVariable name fallback =>
          obtain ⟨members, isObject, refersTo⟩ := (ofJson_eq_fromVariable_iff content).mp accepted
          exact noReference members name fallback isObject refersTo
  · rintro members members' text' rfl perm reads'
    rw [reads'.decode_eq]
    exact ofJson_object_eq_of_perm perm content

/-- Members of another name, before and behind the two names that count. -/
def scattered : List (String × String) :=
  [("x", "env"), ("default", "kv"), ("x", ""), ("env", "A")]

/-- Neither other members nor the order of all of them make a difference. -/
theorem decode_two_shapes_scattered :
    Json.Reads "\x7b\"x\":\"env\",\"default\":\"kv\",\"x\":\"\",\"env\":\"A\"\x7d"
        (.object (scattered.map Json.readMember)) ∧
      RefersTo (scattered.map Json.readMember) "A" (some "kv") ∧
      Json.decode ofJson "\x7b\"x\":\"env\",\"default\":\"kv\",\"x\":\"\",\"env\":\"A\"\x7d" =
        .ok (fromVariable "A" (some "kv")) ∧
      Json.decode ofJson "\x7b\"env\":\"A\",\"x\":\"\",\"default\":\"kv\",\"x\":\"env\"\x7d" =
        .ok (fromVariable "A" (some "kv")) := by
  have reads := Json.reads_writeObject scattered (List.forall_mem_nil _)
  have reads' := Json.reads_writeObject scattered.reverse (List.forall_mem_nil _)
  have text : String.ofList (Json.writeObject scattered ++ []) =
      "\x7b\"x\":\"env\",\"default\":\"kv\",\"x\":\"\",\"env\":\"A\"\x7d" := by decide +kernel
  have text' : String.ofList (Json.writeObject scattered.reverse ++ []) =
      "\x7b\"env\":\"A\",\"x\":\"\",\"default\":\"kv\",\"x\":\"env\"\x7d" := by decide +kernel
  rw [text] at reads
  rw [text', List.map_reverse] at reads'
  have refersTo : RefersTo (scattered.map Json.readMember) "A" (some "kv") :=
    ⟨rfl, .inr ⟨.string "kv", rfl, .text "kv"⟩⟩
  obtain ⟨-, references, -, orders⟩ := decode_two_shapes reads
  have decoded := (references "A" (some "kv")).mpr ⟨_, rfl, refersTo⟩
  have decoded' := orders _ _ _ rfl (List.reverse_perm _).symm reads'
  exact ⟨reads, refersTo, decoded, decoded'.trans decoded⟩

/-- Nothing to fall back on is the same as no entry for it. -/
example : (Json.decode ofJson "\x7b\"default\":null,\"env\":\"A\"\x7d").toOption =
    some (fromVariable "A" none) := by decide +kernel

end StatusLookup.EnvValue
