import Mathlib.Logic.Relation
import StatusLookup.Proofs.Config.Entries
import StatusLookup.Proofs.Config.Written

/-!
# Configurations that are edited

A configuration file may be put in another order, and notes of other programs may come and go in it,
and the configuration remains what it was. What is known of a text after any number of such edits is
that the entries still make up the same configuration. Only an entry that counts may not come twice:
it is never chosen which of two is meant.
-/

namespace StatusLookup

open Yaml Yaml.Node Fields

namespace Yaml

/-- The text is one document with this root. -/
structure IsDocument (text : String) (root : Node) : Prop where
  root : (Document.ofText text).root = root
  isComplete : (Document.ofText text).isComplete = true

/-- The entries are put in another order, or an entry that is written out comes or goes, with a
scalar for its key that is none of the known names. -/
inductive Rearranged (known : List String) :
    List (Node × Node) → List (Node × Node) → Prop where
  | order {entries entries' : List (Node × Node)} :
      entries.Perm entries' → Rearranged known entries entries'
  | add {front back : List (Node × Node)} {key value : Node} {text : String} :
      key.text? = some text → text ∉ known → value.IsExplicit →
      Rearranged known (front ++ back) (front ++ (key, value) :: back)
  | remove {front back : List (Node × Node)} {key value : Node} {text : String} :
      key.text? = some text → text ∉ known →
      Rearranged known (front ++ (key, value) :: back) (front ++ back)

variable {known : List String} {entries entries' : List (Node × Node)}

/-- What holds for every entry holds after an edit if it holds for an entry that comes. -/
theorem Rearranged.forall_mem {P : Node × Node → Prop} (edit : Rearranged known entries entries')
    (comes : ∀ key value text, key.text? = some text → value.IsExplicit → P (key, value))
    (all : ∀ entry ∈ entries, P entry) : ∀ entry ∈ entries', P entry := by
  cases edit with
  | order perm => exact fun entry member => all entry (perm.mem_iff.mpr member)
  | add isText _ explicit =>
      rw [List.forall_mem_append] at all
      rw [List.forall_mem_append, List.forall_mem_cons]
      exact ⟨all.1, comes _ _ _ isText explicit, all.2⟩
  | remove =>
      rw [List.forall_mem_append, List.forall_mem_cons] at all
      exact List.forall_mem_append.mpr ⟨all.1, all.2.2⟩

theorem Rearranged.areExplicit (edit : Rearranged known entries entries')
    (explicit : AreExplicit entries) : AreExplicit entries' :=
  edit.forall_mem (fun _ _ _ isText explicit => ⟨.of_text? isText, explicit⟩) explicit

theorem Rearranged.keys (edit : Rearranged known entries entries')
    (keys : ∀ entry ∈ entries, entry.1.text?.isSome) :
    ∀ entry ∈ entries', entry.1.text?.isSome :=
  edit.forall_mem (fun _ _ _ isText _ => Option.isSome_of_eq_some isText) keys

/-- The values under a known name are kept. -/
theorem Rearranged.valuesOf_perm (edit : Rearranged known entries entries') {name : String}
    (member : name ∈ known) :
    (valuesOf (isNamed name) entries).Perm (valuesOf (isNamed name) entries') := by
  have unnamed {key : Node} {text : String} (isText : key.text? = some text)
      (unknown : text ∉ known) : key.isNamed name = false := by
    rw [isNamed_of_text? isText, beq_eq_false_iff_ne]
    rintro rfl
    exact unknown member
  cases edit with
  | order perm => exact Fields.valuesOf_perm perm
  | add isText unknown =>
      rw [valuesOf_append, valuesOf_append, valuesOf_cons_of_neg (unnamed isText unknown)]
  | remove isText unknown =>
      rw [valuesOf_append, valuesOf_append, valuesOf_cons_of_neg (unnamed isText unknown)]

end Yaml

/-- A store is kept when its entries are rearranged. -/
theorem StoreConfig.standsFor_of_rearranged {fields fields' : List (Node × Node)}
    {tag : Option Tag} {c : StoreConfig} (explicit : AreExplicit fields)
    (edit : Rearranged ["root"] fields fields')
    (stands : (Node.mapping tag fields).StandsFor ofNode c) :
    (Node.mapping tag fields').StandsFor ofNode c := by
  rw [standsFor_mapping_iff explicit] at stands
  rw [standsFor_mapping_iff (edit.areExplicit explicit)]
  exact ⟨edit.keys stands.keys, stands.root.of_perm (edit.valuesOf_perm List.mem_cons_self)⟩

namespace Config

/-- One edit of the entries of a configuration, or of the entries below one of them. -/
inductive Edit : List (Node × Node) → List (Node × Node) → Prop where
  | entries {entries entries' : List (Node × Node)} :
      Rearranged ["key_prefix", "store"] entries entries' → Edit entries entries'
  | store {front back fields fields' : List (Node × Node)} {key : Node} {tag : Option Tag} :
      key.text? = some "store" → Rearranged ["root"] fields fields' →
      Edit (front ++ (key, .mapping tag fields) :: back)
        (front ++ (key, .mapping tag fields') :: back)
  | keyPrefix {front back fields fields' : List (Node × Node)} {key : Node} {tag : Option Tag} :
      key.text? = some "key_prefix" → fields.Perm fields' →
      Edit (front ++ (key, .mapping tag fields) :: back)
        (front ++ (key, .mapping tag fields') :: back)

variable {entries entries' : List (Node × Node)} {c : Config} {text : String} {tag : Option Tag}

theorem IsMadeOf.of_rearranged (edit : Rearranged ["key_prefix", "store"] entries entries')
    (made : c.IsMadeOf entries) : c.IsMadeOf entries' := by
  obtain ⟨keys, ⟨slot, filled, same⟩, store⟩ := made
  refine ⟨edit.keys keys, ⟨slot, ?_, same⟩, ?_⟩
  · exact filled.of_perm (edit.valuesOf_perm (by decide))
  · exact store.of_perm (edit.valuesOf_perm (by decide))

/-- A value may be replaced by one that stands for the same. -/
theorem IsMadeOf.replace {front back : List (Node × Node)} {key value value' : Node}
    (made : c.IsMadeOf (front ++ (key, value) :: back))
    (keyPrefix : key.isNamed "key_prefix" = true → ∀ v, value.StandsFor EnvValue.ofNode v →
      value'.StandsFor EnvValue.ofNode v)
    (store : key.isNamed "store" = true → ∀ c, value.StandsFor StoreConfig.ofNode c →
      value'.StandsFor StoreConfig.ofNode c) :
    c.IsMadeOf (front ++ (key, value') :: back) := by
  obtain ⟨keys, ⟨slot, filled, same⟩, filled'⟩ := made
  rw [List.forall_mem_append, List.forall_mem_cons] at keys
  refine ⟨?_, ⟨slot, filled.replace keyPrefix, same⟩, filled'.replace store⟩
  exact List.forall_mem_append.mpr ⟨keys.1, List.forall_mem_cons.mpr keys.2⟩

/-- One edit keeps the entries written out. -/
theorem Edit.areExplicit (edit : Edit entries entries') (explicit : AreExplicit entries) :
    AreExplicit entries' := by
  cases edit with
  | entries edit => exact edit.areExplicit explicit
  | store _ edit =>
      refine explicit.replace fun fields => ?_
      exact isExplicit_mapping_iff.mpr (edit.areExplicit (isExplicit_mapping_iff.mp fields))
  | keyPrefix _ perm =>
      refine explicit.replace fun fields => isExplicit_mapping_iff.mpr ?_
      exact fun field member => isExplicit_mapping_iff.mp fields field (perm.mem_iff.mpr member)

/-- One edit keeps the configuration. -/
theorem Edit.isMadeOf (edit : Edit entries entries') (explicit : AreExplicit entries)
    (made : c.IsMadeOf entries) : c.IsMadeOf entries' := by
  cases edit with
  | entries edit => exact made.of_rearranged edit
  | @store front back fields fields' key tag isStore edit =>
      have written : AreExplicit fields :=
        explicit.fields (List.mem_append_right front List.mem_cons_self)
      refine made.replace (fun isPrefix => ?_) ?_
      · rw [isNamed_of_text? isStore] at isPrefix
        contradiction
      · intro _ store stands
        exact StoreConfig.standsFor_of_rearranged written edit stands
  | @keyPrefix front back fields fields' key tag isPrefix perm =>
      have written : AreExplicit fields :=
        explicit.fields (List.mem_append_right front List.mem_cons_self)
      refine made.replace ?_ fun isStore => ?_
      · intro _ v stands
        exact EnvValue.standsFor_of_perm written perm stands
      · rw [isNamed_of_text? isPrefix] at isStore
        contradiction

/-- Any number of edits keeps the configuration. -/
theorem isMadeOf_of_edits (edits : Relation.ReflTransGen Edit entries entries')
    (explicit : AreExplicit entries) (made : c.IsMadeOf entries) :
    AreExplicit entries' ∧ c.IsMadeOf entries' := by
  induction edits with
  | refl => exact ⟨explicit, made⟩
  | tail _ edit ih =>
      obtain ⟨explicit, made⟩ := ih
      exact ⟨edit.areExplicit explicit, edit.isMadeOf explicit made⟩

/-- Without its key prefix a configuration has the one that stands for none. -/
theorem IsMadeOf.remove_keyPrefix {front back : List (Node × Node)} {key value : Node}
    (isPrefix : key.text? = some "key_prefix")
    (made : c.IsMadeOf (front ++ (key, value) :: back)) :
    IsMadeOf ⟨standardPrefix, c.store⟩ (front ++ back) := by
  obtain ⟨keys, ⟨slot, filled, -⟩, store⟩ := made
  have named (name : String) : key.isNamed name = ("key_prefix" == name) :=
    isNamed_of_text? isPrefix
  have single := filled.length_le
  rw [List.forall_mem_append, List.forall_mem_cons] at keys
  rw [valuesOf_append, valuesOf_cons_of_pos (named _), List.length_append, List.length_cons]
    at single
  rw [valuesOf_append, valuesOf_cons_of_neg (named _), ← valuesOf_append] at store
  refine ⟨List.forall_mem_append.mpr ⟨keys.1, keys.2.2⟩, ⟨none, ?_, rfl⟩, store⟩
  have others : valuesOf (isNamed "key_prefix") (front ++ back) = [] := by
    rw [valuesOf_append, ← List.length_eq_zero_iff, List.length_append]
    omega
  rw [others]
  exact .keep none

/-- Entries of which one that counts comes twice, or one is missing that has to be there. -/
inductive IsDefective (entries : List (Node × Node)) : Prop where
  | keyPrefix : 2 ≤ (valuesOf (isNamed "key_prefix") entries).length → IsDefective entries
  | store : (valuesOf (isNamed "store") entries).length ≠ 1 → IsDefective entries
  | root {tag : Option Tag} {fields : List (Node × Node)} :
      .mapping tag fields ∈ valuesOf (isNamed "store") entries →
      (valuesOf (isNamed "root") fields).length ≠ 1 → IsDefective entries

theorem IsMadeOf.not_isDefective (explicit : AreExplicit entries) (made : c.IsMadeOf entries) :
    ¬ IsDefective entries := by
  obtain ⟨-, ⟨slot, filled, -⟩, store⟩ := made
  obtain ⟨value, single, stands⟩ := fills_none_some_iff.mp store
  intro defective
  cases defective with
  | keyPrefix twice => exact absurd filled.length_le (Nat.not_le.mpr twice)
  | store several => exact several (by rw [single]; rfl)
  | @root tag fields member several =>
      obtain ⟨key, listed, -⟩ := mem_valuesOf.mp member
      have written : AreExplicit fields := explicit.fields listed
      rw [single, List.mem_singleton] at member
      subst member
      have fill := (StoreConfig.standsFor_mapping_iff written).mp stands
      obtain ⟨root, single, -⟩ := fills_none_some_iff.mp fill.root
      exact several (by rw [single]; rfl)

theorem ofYaml_eq_ok_iff (document : IsDocument text (.mapping tag entries))
    (explicit : AreExplicit entries) : ofYaml text = .ok c ↔ c.IsMadeOf entries := by
  rw [ofYaml, Reading.run?_eq_ok_iff (ofDocument_agree explicit document.root),
    ofDocument_eq_pure_iff explicit document.root, and_iff_left document.isComplete]

/-- A configuration that is read from a text is read from the text after any number of edits, and
with the standard key prefix once the entry for it is removed. No text is read in which an entry
that counts comes twice or one is missing. -/
theorem ofYaml_edits (document : IsDocument text (.mapping tag entries))
    (explicit : (Node.mapping tag entries).IsExplicit) :
    (∀ c, ofYaml text = .ok c →
      (∀ text' entries', Relation.ReflTransGen Edit entries entries' →
        IsDocument text' (.mapping tag entries') → ofYaml text' = .ok c) ∧
      ∀ text' front key value back, entries = front ++ (key, value) :: back →
        key.text? = some "key_prefix" → IsDocument text' (.mapping tag (front ++ back)) →
        ofYaml text' = .ok ⟨.literal "_deployments", c.store⟩) ∧
    (IsDefective entries → ∃ e, ofYaml text = .error e) := by
  have written : AreExplicit entries := isExplicit_mapping_iff.mp explicit
  refine ⟨fun c read => ⟨?_, ?_⟩, ?_⟩
  · intro text' entries' edits document'
    obtain ⟨written', made⟩ :=
      isMadeOf_of_edits edits written ((ofYaml_eq_ok_iff document written).mp read)
    exact (ofYaml_eq_ok_iff document' written').mpr made
  · rintro text' front key value back rfl isPrefix document'
    have made := (ofYaml_eq_ok_iff document written).mp read
    have written' : AreExplicit (front ++ back) :=
      (Rearranged.remove isPrefix (List.not_mem_nil)).areExplicit written
    exact (ofYaml_eq_ok_iff document' written').mpr (made.remove_keyPrefix isPrefix)
  · intro defective
    cases read : ofYaml text with
    | error e => exact ⟨e, rfl⟩
    | ok c =>
        exact absurd defective
          (((ofYaml_eq_ok_iff document written).mp read).not_isDefective written)

theorem isDocument_toYaml (indent : Nat) (c : Config) : IsDocument (c.toYaml indent) c.node := by
  obtain ⟨size, written⟩ := ofText_toYaml indent c
  exact ⟨by rw [written], by rw [written]⟩

def withEntries (keyPrefix store : List (Node × Node)) : List (Node × Node) :=
  [(.plain "key_prefix", .mapping none keyPrefix), (.plain "store", .mapping none store)]

/-- A key prefix is reordered, a note is added to the store, and the store is put in front of the
key prefix. -/
theorem edits_withEntries (root : Node) :
    Relation.ReflTransGen Edit
      (withEntries [(.plain "env", .quoted "A"), (.plain "default", .quoted "b")]
        [(.plain "root", root)])
      (withEntries [(.plain "default", .quoted "b"), (.plain "env", .quoted "A")]
        [(.plain "note", .plain "1"), (.plain "root", root)]).reverse := by
  have sorted := @Edit.keyPrefix [] [(.plain "store", .mapping none [(.plain "root", root)])]
    _ _ (.plain "key_prefix") none rfl
    (List.Perm.swap (.plain "default", .quoted "b") (.plain "env", .quoted "A") [])
  have noted := @Edit.store [(.plain "key_prefix", .mapping none
      [(.plain "default", .quoted "b"), (.plain "env", .quoted "A")])] []
    _ _ (.plain "store") none rfl
    (@Rearranged.add ["root"] [] [(.plain "root", root)] (.plain "note") (.plain "1") "note" rfl
      (by decide) (.scalar none "1" true))
  have swapped := Edit.entries (.order (List.reverse_perm (withEntries
    [(.plain "default", .quoted "b"), (.plain "env", .quoted "A")]
    [(.plain "note", .plain "1"), (.plain "root", root)])).symm)
  exact ((Relation.ReflTransGen.single sorted).tail noted).tail swapped

def editedText : String :=
  "store:\n  note: 1\n  root: \"kv\"\nkey_prefix:\n  default: \"b\"\n  env: \"A\"\n"

/-- A text that is written, then edited, then without its key prefix; and a text with two roots. -/
theorem ofYaml_edits_reordered :
    let c : Config := ⟨.fromVariable "A" (some "b"), ⟨"kv"⟩⟩
    ofYaml (c.toYaml 1) = .ok c ∧
      ofYaml editedText = .ok c ∧
      ofYaml "store:\n  root: \"kv\"\n" = .ok ⟨.literal "_deployments", ⟨"kv"⟩⟩ ∧
      ∃ e, ofYaml "store:\n  root: a\n  root: b\n" = .error e := by
  have edited : IsDocument editedText
      (.mapping none (withEntries [(.plain "default", .quoted "b"), (.plain "env", .quoted "A")]
        [(.plain "note", .plain "1"), (.plain "root", .quoted "kv")]).reverse) := ⟨rfl, rfl⟩
  have unprefixed : IsDocument "store:\n  root: \"kv\"\n"
      (.mapping none ([] ++ [(.plain "store", .mapping none [(.plain "root", .quoted "kv")])])) :=
    ⟨rfl, rfl⟩
  have twice : IsDocument "store:\n  root: a\n  root: b\n"
      (.mapping none [(.plain "store", .mapping none
        [(.plain "root", .plain "a"), (.plain "root", .plain "b")])]) := ⟨rfl, rfl⟩
  have scalar (text : String) (isPlain : Bool) : (Node.scalar none text isPlain).IsExplicit :=
    .scalar none text isPlain
  intro c
  have read := ofYaml_toYaml 1 c
  have explicit : (Node.mapping none (withEntries
      [(.plain "env", .quoted "A"), (.plain "default", .quoted "b")]
      [(.plain "root", .quoted "kv")])).IsExplicit := by
    simp [isExplicit_mapping_iff, AreExplicit, withEntries, plain, quoted, scalar]
  have explicit' : (Node.mapping none [(.plain "store", .mapping none
      [(.plain "root", .plain "a"), (.plain "root", .plain "b")])]).IsExplicit := by
    simp [isExplicit_mapping_iff, AreExplicit, plain, scalar]
  obtain ⟨kept, -⟩ := ofYaml_edits (isDocument_toYaml 1 c) explicit
  obtain ⟨edits, removal⟩ := kept c read
  refine ⟨read, edits _ _ (edits_withEntries (.quoted "kv")) edited, ?_, ?_⟩
  · exact removal _ [] _ _ _ rfl rfl unprefixed
  · exact (ofYaml_edits twice explicit').2 (.root (List.mem_singleton.mpr rfl) (by decide))

end Config

end StatusLookup
