import Mathlib.Data.List.Forall2
import StatusLookup.Json.Reader
import StatusLookup.Proofs.Data.Steps

/-!
# Texts and their values

A text reads as a value when the reader gets through it and finds only blanks behind the value. A
reader that gets through has come across no cut, so such a value has a content, down to its last
item and member.
-/

namespace StatusLookup.Json

/-! ## Texts -/

/-- A text that is one value and nothing else. -/
def Reads (text : String) (value : Json) : Prop :=
  ∃ rest, read text = (value, some rest) ∧ skipSpace rest = []

variable {text : String} {value value' : Json}

theorem Reads.unique (reads : Reads text value) (reads' : Reads text value') : value = value' := by
  obtain ⟨rest, read, -⟩ := reads
  obtain ⟨rest', read', -⟩ := reads'
  exact congrArg Prod.fst (read.symm.trans read')

/-- To decode a text is to look at its value. -/
theorem Reads.decode_eq {α : Type} (reads : Reads text value) (reader : Json → Except JsonError α) :
    decode reader text = reader value := by
  obtain ⟨rest, read, blank⟩ := reads
  rw [decode, read]
  simp [blank]

/-- A text is decoded only if it has a value, and this is the value that is looked at. -/
theorem decode_eq_ok_iff {α : Type} {reader : Json → Except JsonError α} {a : α} :
    decode reader text = .ok a ↔ ∃ value, Reads text value ∧ reader value = .ok a := by
  constructor
  · intro decoded
    rw [decode] at decoded
    obtain ⟨result, found, left⟩ := bind_eq_ok_iff.mp decoded
    split at left
    · rename_i rest some_rest
      split at left
      · rename_i blank
        obtain rfl : result = a := Except.ok.inj left
        exact ⟨(read text).1, ⟨rest, Prod.ext rfl some_rest, List.isEmpty_iff.mp blank⟩, found⟩
      · contradiction
    · contradiction
  · rintro ⟨value, reads, found⟩
    exact (reads.decode_eq reader).trans found

/-! ## Contents -/

theorem content?_eq_text_iff {text : String} :
    value.content? = some (.text text) ↔ value = .string text := by
  cases value with
  | number n => cases n <;> simp [content?, JsonNumber.content]
  | _ => simp [content?]

theorem content?_eq_null_iff : value.content? = some .null ↔ value = .null := by
  cases value with
  | number n => cases n <;> simp [content?, JsonNumber.content]
  | _ => simp [content?]

theorem content?_eq_map_iff {entries : List (Content × Content)} :
    value.content? = some (.map entries) ↔
      ∃ members, value = .object members ∧ memberContents? members = some entries := by
  cases value with
  | number n => cases n <;> simp [content?, JsonNumber.content]
  | _ => simp [content?]

/-- The entries of a map are the members of an object, one by one. -/
theorem memberContents?_eq_some_iff {members : List (String × Json)}
    {entries : List (Content × Content)} :
    memberContents? members = some entries ↔
      List.Forall₂ (fun member entry => entry.1 = .text member.1 ∧
        member.2.content? = some entry.2) members entries := by
  induction members generalizing entries with
  | nil => simp [memberContents?, eq_comm]
  | cons member members ih =>
      obtain ⟨name, value⟩ := member
      rw [List.forall₂_cons_left_iff]
      simp only [memberContents?, Option.bind_eq_bind, Option.bind_eq_some_iff, ih,
        Option.pure_def, Option.some.injEq]
      constructor
      · rintro ⟨c, content, rest, others, rfl⟩
        exact ⟨_, _, ⟨rfl, content⟩, others, rfl⟩
      · rintro ⟨⟨_, c⟩, rest, ⟨rfl, content⟩, others, rfl⟩
        exact ⟨c, content, rest, others, rfl⟩

/-! ## Wholeness -/

/-- A part of a text has a content when there is a text left behind it. -/
def IsWhole {α β : Type} (content : α → Option β) (reading : α × Option (List Char)) : Prop :=
  ∀ rest, reading.2 = some rest → ∃ b, content reading.1 = some b

theorem isWhole_cutReading : IsWhole content? cutReading := nofun

theorem isWhole_word (expected : List Char) {value : Json} {c : Content}
    (content : value.content? = some c) (cs : List Char) :
    IsWhole content? (word expected value cs) := by
  rw [word]
  split
  · exact fun _ _ => ⟨c, content⟩
  · exact isWhole_cutReading

def itemsFrom (steps depth : Nat) (cs : List Char) : List Json × Option (List Char) :=
  match readValue steps depth cs with
  | (value, none) => ([value, cut], none)
  | (value, some rest) =>
    let (items, rest) := readItems steps depth false rest
    (value :: items, rest)

def valueFrom (steps depth : Nat) (name cs : List Char) :
    List (String × Json) × Option (List Char) :=
  match readValue steps depth cs with
  | (value, none) => ([(String.ofList name, value), ("", cut)], none)
  | (value, some rest) =>
    let (members, rest) := readMembers steps depth false rest
    ((String.ofList name, value) :: members, rest)

def membersFrom (steps depth : Nat) (cs : List Char) : List (String × Json) × Option (List Char) :=
  match cs with
  | '"' :: cs =>
    match stringBody cs with
    | none => ([("", cut)], none)
    | some (name, rest) =>
      match skipSpace rest with
      | ':' :: rest => valueFrom steps depth name rest
      | _ => ([("", cut)], none)
  | _ => ([("", cut)], none)

/-- In so many steps the reader leaves no text behind a part that has a cut. -/
structure AreWhole (steps : Nat) : Prop where
  value : ∀ depth cs, IsWhole content? (readValue steps depth cs)
  items : ∀ depth first cs, IsWhole contents? (readItems steps depth first cs)
  members : ∀ depth first cs, IsWhole memberContents? (readMembers steps depth first cs)

variable {steps : Nat} (whole : AreWhole steps) (depth : Nat)

include whole

theorem AreWhole.readValue_succ (cs : List Char) :
    IsWhole content? (readValue (steps + 1) depth cs) := by
  rw [readValue]
  split
  case h_1 => exact isWhole_word _ rfl _
  case h_2 => exact isWhole_word _ rfl _
  case h_3 => exact isWhole_word _ rfl _
  case h_4 =>
    split
    · exact fun _ _ => ⟨_, rfl⟩
    · exact isWhole_cutReading
  case h_5 =>
    split
    · exact fun _ _ => ⟨_, rfl⟩
    · exact isWhole_cutReading
  case h_6 =>
    split
    · nofun
    · intro rest left
      obtain ⟨contents, found⟩ := whole.items (depth - 1) true _ rest left
      exact ⟨.list contents, by simp [content?, found]⟩
  case h_7 =>
    split
    · nofun
    · intro rest left
      obtain ⟨contents, found⟩ := whole.members (depth - 1) true _ rest left
      exact ⟨.map contents, by simp [content?, found]⟩
  case h_8 =>
    split
    · exact fun _ _ => ⟨_, rfl⟩
    · exact isWhole_cutReading
  case h_9 => exact isWhole_cutReading

theorem AreWhole.itemsFrom (cs : List Char) :
    IsWhole contents? (itemsFrom steps depth cs) := by
  rw [Json.itemsFrom]
  split
  · nofun
  · rename_i value rest read
    intro rest' left
    obtain ⟨c, content⟩ := whole.value depth cs rest (by rw [read])
    obtain ⟨contents, found⟩ := whole.items depth false rest rest' left
    rw [read] at content
    exact ⟨c :: contents, by simp [contents?, content, found]⟩

theorem AreWhole.readItems_succ (first : Bool) (cs : List Char) :
    IsWhole contents? (readItems (steps + 1) depth first cs) := by
  rw [readItems]
  split
  · exact fun _ _ => ⟨[], rfl⟩
  · split
    · nofun
    · split
      · nofun
      · exact whole.itemsFrom depth _
  · split
    · exact whole.itemsFrom depth _
    · nofun

theorem AreWhole.valueFrom (name cs : List Char) :
    IsWhole memberContents? (valueFrom steps depth name cs) := by
  rw [Json.valueFrom]
  split
  · nofun
  · rename_i value rest read
    intro rest' left
    obtain ⟨c, content⟩ := whole.value depth cs rest (by rw [read])
    obtain ⟨contents, found⟩ := whole.members depth false rest rest' left
    rw [read] at content
    exact ⟨(.text (String.ofList name), c) :: contents, by
      simp [memberContents?, content, found]⟩

theorem AreWhole.membersFrom (cs : List Char) :
    IsWhole memberContents? (membersFrom steps depth cs) := by
  unfold Json.membersFrom
  split
  · split
    · nofun
    · split
      · exact whole.valueFrom depth _ _
      · nofun
  · nofun

theorem AreWhole.readMembers_succ (first : Bool) (cs : List Char) :
    IsWhole memberContents? (readMembers (steps + 1) depth first cs) := by
  rw [readMembers]
  split
  · exact fun _ _ => ⟨[], rfl⟩
  · split
    · nofun
    · exact whole.membersFrom depth _
  · split
    · exact whole.membersFrom depth _
    · nofun

omit whole in
/-- The cuts that a reader leaves in a value are where it got stuck. -/
theorem areWhole (steps : Nat) : AreWhole steps := by
  induction steps with
  | zero => exact ⟨fun _ _ => nofun, fun _ _ _ => nofun, fun _ _ _ => nofun⟩
  | succ steps ih => exact ⟨ih.readValue_succ, ih.readItems_succ, ih.readMembers_succ⟩

omit whole in
/-- The value of a text has a content. -/
theorem Reads.exists_content {text : String} {value : Json} (reads : Reads text value) :
    ∃ c, value.content? = some c := by
  obtain ⟨rest, read, -⟩ := reads
  have whole : IsWhole content? (Json.read text) := (areWhole _).value maxDepth text.toList
  rw [read] at whole
  exact whole rest rfl

end StatusLookup.Json
