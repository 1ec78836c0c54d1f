import StatusLookup.Config.FromYaml
import StatusLookup.Proofs.Config.Shapes
import StatusLookup.Proofs.Yaml.Explicit

/-!
# The entries of a configuration

A configuration is read entry by entry, and so is its store. What is read in the end is said here
without the order of reading: every key is a scalar, there is one entry for the store and in it one
for the root, and there may be one for the key prefix. Everything else in the two mappings only has
to be there in full.
-/

namespace StatusLookup

open Yaml Fields Reading

namespace Yaml.Node

/-- The keys that are scalars with this text. -/
def isNamed (name : String) (key : Node) : Bool :=
  key.text? == some name

variable {key : Node} {name text : String}

theorem isNamed_of_text? (isText : key.text? = some text) : key.isNamed name = (text == name) := by
  rw [isNamed, isText]
  rfl

end Yaml.Node

open Yaml.Node

variable {n : Node} {entry : Node × Node} {entries : List (Node × Node)}
  {d d' : Document} {path path' : YamlPath} {tag : Option Tag}

/-! ## The store -/

namespace StoreConfig

variable {root root' : Option String} {c : StoreConfig}

theorem readEntry_scalar (d : Document) (path : YamlPath) (root : Option String)
    (tag : Option Tag) (text : String) (isPlain : Bool) (value : Node) :
    readEntry d path root (.scalar tag text isPlain, value) =
      if text = "root" then
        if root.isSome then .fail (.mismatch path (.duplicateField "root"))
        else (value.readText d (.key text :: path) .path >>= fun t => pure (some t))
      else value.skip >>= fun _ => pure root := by
  by_cases isRoot : text = "root"
  · subst isRoot
    rfl
  · rw [if_neg isRoot]
    simp only [readEntry, readText, Document.follow, pure_bind]

theorem readEntry_agree (key : entry.1.IsExplicit) (value : entry.2.IsExplicit) :
    Agree (readEntry d path root entry) (readEntry d' path' root entry) := by
  obtain ⟨_, n⟩ := entry
  cases key with
  | scalar tag text isPlain =>
      rw [readEntry_scalar, readEntry_scalar]
      split
      · exact value.readText_agree.once _ _ root some
      · rw [value.skip_eq]
        exact .value root
  | sequence => exact .failure _ _
  | mapping => exact .failure _ _

/-- What the entries of a mapping make of the root. -/
structure Fill (entries : List (Node × Node)) (root root' : Option String) : Prop where
  keys : ∀ entry ∈ entries, entry.1.text?.isSome
  root : Fills (fun n text => n.text? = some text) root (valuesOf (isNamed "root") entries) root'

theorem fill_iff : Fill entries root root' ↔
    (∀ entry ∈ entries, entry.1.text?.isSome) ∧
      Fills (fun n text => n.text? = some text) root (valuesOf (isNamed "root") entries) root' :=
  ⟨fun fill => ⟨fill.keys, fill.root⟩, fun both => ⟨both.1, both.2⟩⟩

/-- What one entry makes of the root. -/
theorem fill_scalar_iff {text : String} {isPlain : Bool} :
    Fill [(.scalar tag text isPlain, n)] root root' ↔
      if text = "root" then root = none ∧ ∃ t, n.text? = some t ∧ root' = some t
      else root' = root := by
  have named : isNamed "root" (.scalar tag text isPlain) = (text == "root") := rfl
  simp only [fill_iff, List.forall_mem_singleton, fills_valuesOf_singleton_iff, named, beq_iff_eq]
  exact and_iff_right rfl

theorem readEntry_eq_pure_iff (key : entry.1.IsExplicit) (value : entry.2.IsExplicit) :
    readEntry d path root entry = pure root' ↔ Fill [entry] root root' := by
  obtain ⟨_, n⟩ := entry
  cases key with
  | scalar tag text isPlain =>
      rw [readEntry_scalar, fill_scalar_iff]
      split
      · rw [value.readText_agree.once_eq_pure_iff]
        simp only [value.readText_eq_pure_iff]
      · rw [value.skip_eq, pure_bind, pure_inj, eq_comm]
  | sequence => exact iff_of_false fail_ne_pure fun fill => absurd (fill.keys _ (.head _)) nofun
  | mapping => exact iff_of_false fail_ne_pure fun fill => absurd (fill.keys _ (.head _)) nofun

theorem fill_nil_iff : Fill [] root root' ↔ root' = root := by
  rw [fill_iff, valuesOf_nil, fills_nil_iff]
  exact and_iff_right (List.forall_mem_nil _)

/-- The entries fill what they fill one after the other. -/
theorem fill_cons_iff :
    Fill (entry :: entries) root root' ↔
      ∃ middle, Fill [entry] root middle ∧ Fill entries middle root' := by
  have split : valuesOf (isNamed "root") (entry :: entries) =
      valuesOf (isNamed "root") [entry] ++ valuesOf (isNamed "root") entries :=
    valuesOf_append [entry] entries
  simp only [fill_iff, split, fills_append_iff, List.forall_mem_cons]
  constructor
  · rintro ⟨⟨key, keys⟩, middle, first, rest⟩
    exact ⟨middle, ⟨⟨key, nofun⟩, first⟩, keys, rest⟩
  · rintro ⟨middle, ⟨⟨key, _⟩, first⟩, keys, rest⟩
    exact ⟨⟨key, keys⟩, middle, first, rest⟩

theorem foldlM_readEntry_agree (explicit : AreExplicit entries) (root : Option String) :
    Agree (entries.foldlM (readEntry d path) root) (entries.foldlM (readEntry d' path') root) := by
  refine .foldlM (fun root entry member => ?_) root
  exact readEntry_agree (explicit entry member).1 (explicit entry member).2

theorem foldlM_readEntry_eq_pure_iff (explicit : AreExplicit entries) :
    entries.foldlM (readEntry d path) root = pure root' ↔ Fill entries root root' := by
  refine foldlM_eq_pure_iff (fun _ _ => fill_nil_iff) (fun _ _ _ _ => fill_cons_iff) ?_ ?_ root
    root'
  · intro entry member root
    exact readEntry_agree (explicit entry member).1 (explicit entry member).2
  · intro entry member root root'
    exact readEntry_eq_pure_iff (explicit entry member).1 (explicit entry member).2

theorem ofNode_agree (explicit : n.IsExplicit) : Agree (ofNode d path n) (ofNode d' path' n) := by
  refine explicit.readEntries_agree.bind_of_pure fun entries given => ?_
  have written : AreExplicit entries := explicit.areExplicit_of_readEntries given
  refine (foldlM_readEntry_agree written none).bind fun root => ?_
  cases root with
  | some root => exact .value (StoreConfig.mk root)
  | none => exact .failure _ _

theorem ofNode_eq_pure_iff (explicit : n.IsExplicit) :
    ofNode d path n = pure c ↔ n.StandsFor ofNode c :=
  standsFor_iff ofNode (fun _ _ _ _ => ofNode_agree explicit) d path

theorem ofNode_mapping (d : Document) (path : YamlPath) (tag : Option Tag)
    (entries : List (Node × Node)) :
    ofNode d path (.mapping tag entries) = entries.foldlM (readEntry d path) none >>= fun root =>
      match root with
      | some root => pure ⟨root⟩
      | none => .fail (.mismatch path (.missingField "root")) := rfl

theorem ofNode_mapping_eq_pure_iff (explicit : AreExplicit entries) (d : Document)
    (path : YamlPath) :
    ofNode d path (.mapping tag entries) = pure c ↔ Fill entries none (some c.root) := by
  rw [ofNode_mapping, (foldlM_readEntry_agree explicit none).bind_eq_pure_iff]
  simp only [foldlM_readEntry_eq_pure_iff explicit]
  constructor
  · rintro ⟨_ | root, fill, same⟩
    · exact absurd same fail_ne_pure
    · obtain rfl := pure_inj.mp same
      exact fill
  · intro fill
    exact ⟨some c.root, fill, rfl⟩

/-- What a mapping stands for as a store. -/
theorem standsFor_mapping_iff (explicit : AreExplicit entries) :
    (Node.mapping tag entries).StandsFor ofNode c ↔ Fill entries none (some c.root) := by
  constructor
  · intro stands
    exact (ofNode_mapping_eq_pure_iff explicit ⟨.cut, [], 0, true⟩ []).mp (stands _ _)
  · intro fill d path
    exact (ofNode_mapping_eq_pure_iff explicit d path).mpr fill

end StoreConfig

namespace EnvValue

theorem ofNode_agree (explicit : n.IsExplicit) :
    Reading.Agree (ofNode d path n) (ofNode d' path' n) := by
  refine (explicit.readContent_agree maxDepth).bind fun content => ?_
  split
  · exact .value _
  · exact .failure _ _

theorem ofNode_eq_pure_iff {v : EnvValue} (explicit : n.IsExplicit) :
    ofNode d path n = pure v ↔ n.StandsFor ofNode v :=
  standsFor_iff ofNode (fun _ _ _ _ => ofNode_agree explicit) d path

/-- The order of the entries of a mapping shows in no value. -/
theorem standsFor_of_perm {entries' : List (Node × Node)} {v : EnvValue}
    (explicit : AreExplicit entries) (perm : entries.Perm entries')
    (stands : (Node.mapping tag entries).StandsFor ofNode v) :
    (Node.mapping tag entries').StandsFor ofNode v := by
  intro d path
  have mapping : (Node.mapping tag entries).IsExplicit := isExplicit_mapping_iff.mpr explicit
  obtain ⟨content, given, same⟩ :=
    (mapping.readContent_agree maxDepth).bind_eq_pure_iff.mp (stands d path)
  obtain ⟨contents, contents', rfl, perm', given'⟩ :=
    mapping.exists_readContent_of_perm perm given
  rw [ofNode, maxDepth, given', pure_bind, ← ofContent?_map_eq_of_perm perm']
  exact same

end EnvValue

/-! ## The configuration -/

namespace Config

variable {found found' : Entries} {c : Config}

theorem readEntry_scalar (d : Document) (found : Entries) (tag : Option Tag) (text : String)
    (isPlain : Bool) (value : Node) :
    readEntry d found (.scalar tag text isPlain, value) =
      if text = "key_prefix" then
        if found.keyPrefix.isSome then .fail (.mismatch [] (.duplicateField "key_prefix"))
        else EnvValue.ofNode d [.key text] value >>= fun v =>
          pure { found with keyPrefix := some v }
      else if text = "store" then
        if found.store.isSome then .fail (.mismatch [] (.duplicateField "store"))
        else StoreConfig.ofNode d [.key text] value >>= fun c => pure { found with store := some c }
      else value.skip >>= fun _ => pure found := by
  by_cases isPrefix : text = "key_prefix"
  · subst isPrefix
    rfl
  · rw [if_neg isPrefix]
    by_cases isStore : text = "store"
    · subst isStore
      rfl
    · rw [if_neg isStore]
      simp only [readEntry, readText, Document.follow, pure_bind]

theorem readEntry_agree (key : entry.1.IsExplicit) (value : entry.2.IsExplicit) (found : Entries) :
    Agree (readEntry d found entry) (readEntry d' found entry) := by
  obtain ⟨_, n⟩ := entry
  cases key with
  | scalar tag text isPlain =>
      rw [readEntry_scalar, readEntry_scalar]
      split
      · exact (EnvValue.ofNode_agree value).once _ _ found.keyPrefix _
      · split
        · exact (StoreConfig.ofNode_agree value).once _ _ found.store _
        · rw [value.skip_eq]
          exact .value found
  | sequence => exact .failure _ _
  | mapping => exact .failure _ _

/-- What the entries of a mapping make of a key prefix and a store. -/
structure Fill (entries : List (Node × Node)) (found found' : Entries) : Prop where
  keys : ∀ entry ∈ entries, entry.1.text?.isSome
  keyPrefix : Fills (StandsFor EnvValue.ofNode) found.keyPrefix
    (valuesOf (isNamed "key_prefix") entries) found'.keyPrefix
  store : Fills (StandsFor StoreConfig.ofNode) found.store
    (valuesOf (isNamed "store") entries) found'.store

theorem fill_iff : Fill entries found found' ↔
    (∀ entry ∈ entries, entry.1.text?.isSome) ∧
      Fills (StandsFor EnvValue.ofNode) found.keyPrefix
        (valuesOf (isNamed "key_prefix") entries) found'.keyPrefix ∧
      Fills (StandsFor StoreConfig.ofNode) found.store
        (valuesOf (isNamed "store") entries) found'.store :=
  ⟨fun fill => ⟨fill.keys, fill.keyPrefix, fill.store⟩, fun all => ⟨all.1, all.2.1, all.2.2⟩⟩

/-- What one entry makes of a key prefix and a store. -/
theorem fill_scalar_iff {text : String} {isPlain : Bool} :
    Fill [(.scalar tag text isPlain, n)] found found' ↔
      if text = "key_prefix" then
        found.keyPrefix = none ∧
          ∃ v, n.StandsFor EnvValue.ofNode v ∧ found' = { found with keyPrefix := some v }
      else if text = "store" then
        found.store = none ∧
          ∃ c, n.StandsFor StoreConfig.ofNode c ∧ found' = { found with store := some c }
      else found' = found := by
  have named (name : String) : isNamed name (.scalar tag text isPlain) = (text == name) := rfl
  obtain ⟨keyPrefix, store⟩ := found
  obtain ⟨keyPrefix', store'⟩ := found'
  simp only [fill_iff, List.forall_mem_singleton, fills_valuesOf_singleton_iff, named, beq_iff_eq,
    Entries.mk.injEq, Node.text?, Option.isSome_some, true_and]
  split
  · rename_i isPrefix
    have notStore : text ≠ "store" := by simp [isPrefix]
    rw [if_neg notStore]
    simp only [← exists_and_right, and_assoc]
  · split
    · constructor
      · rintro ⟨same, empty, c, stands, filled⟩
        exact ⟨empty, c, stands, same, filled⟩
      · rintro ⟨empty, c, stands, same, filled⟩
        exact ⟨same, empty, c, stands, filled⟩
    · exact Iff.rfl

theorem readEntry_eq_pure_iff (key : entry.1.IsExplicit) (value : entry.2.IsExplicit) :
    readEntry d found entry = pure found' ↔ Fill [entry] found found' := by
  obtain ⟨_, n⟩ := entry
  cases key with
  | scalar tag text isPlain =>
      rw [readEntry_scalar, fill_scalar_iff]
      split
      · rw [(EnvValue.ofNode_agree value).once_eq_pure_iff]
        simp only [EnvValue.ofNode_eq_pure_iff value]
      · split
        · rw [(StoreConfig.ofNode_agree value).once_eq_pure_iff]
          simp only [StoreConfig.ofNode_eq_pure_iff value]
        · rw [value.skip_eq, pure_bind, pure_inj, eq_comm]
  | sequence => exact iff_of_false fail_ne_pure fun fill => absurd (fill.keys _ (.head _)) nofun
  | mapping => exact iff_of_false fail_ne_pure fun fill => absurd (fill.keys _ (.head _)) nofun

theorem fill_nil_iff : Fill [] found found' ↔ found' = found := by
  obtain ⟨keyPrefix, store⟩ := found
  obtain ⟨keyPrefix', store'⟩ := found'
  simp [fill_iff]

theorem fill_cons_iff :
    Fill (entry :: entries) found found' ↔
      ∃ middle, Fill [entry] found middle ∧ Fill entries middle found' := by
  have split (name : String) : valuesOf (isNamed name) (entry :: entries) =
      valuesOf (isNamed name) [entry] ++ valuesOf (isNamed name) entries :=
    valuesOf_append [entry] entries
  simp only [fill_iff, split, fills_append_iff, List.forall_mem_cons]
  constructor
  · rintro ⟨⟨key, keys⟩, ⟨keyPrefix, first, rest⟩, store, first', rest'⟩
    exact ⟨⟨keyPrefix, store⟩, ⟨⟨key, nofun⟩, first, first'⟩, keys, rest, rest'⟩
  · rintro ⟨⟨keyPrefix, store⟩, ⟨⟨key, _⟩, first, first'⟩, keys, rest, rest'⟩
    exact ⟨⟨key, keys⟩, ⟨keyPrefix, first, rest⟩, store, first', rest'⟩

theorem foldlM_readEntry_agree (explicit : AreExplicit entries) (found : Entries) :
    Agree (entries.foldlM (readEntry d) found) (entries.foldlM (readEntry d') found) := by
  refine .foldlM (fun found entry member => ?_) found
  exact readEntry_agree (explicit entry member).1 (explicit entry member).2 found

theorem foldlM_readEntry_eq_pure_iff (explicit : AreExplicit entries) :
    entries.foldlM (readEntry d) found = pure found' ↔ Fill entries found found' := by
  refine foldlM_eq_pure_iff (fun _ _ => fill_nil_iff) (fun _ _ _ _ => fill_cons_iff) ?_ ?_ found
    found'
  · intro entry member found
    exact readEntry_agree (explicit entry member).1 (explicit entry member).2 found
  · intro entry member found found'
    exact readEntry_eq_pure_iff (explicit entry member).1 (explicit entry member).2

/-- The entries of a mapping make up a configuration. -/
structure IsMadeOf (c : Config) (entries : List (Node × Node)) : Prop where
  keys : ∀ entry ∈ entries, entry.1.text?.isSome
  keyPrefix : ∃ slot, Fills (StandsFor EnvValue.ofNode) none
    (valuesOf (isNamed "key_prefix") entries) slot ∧ c.keyPrefix = slot.getD standardPrefix
  store : Fills (StandsFor StoreConfig.ofNode) none (valuesOf (isNamed "store") entries)
    (some c.store)

theorem isMadeOf_iff : c.IsMadeOf entries ↔ ∃ found, Fill entries ⟨none, none⟩ found ∧
    c.keyPrefix = found.keyPrefix.getD standardPrefix ∧ found.store = some c.store := by
  constructor
  · rintro ⟨keys, ⟨slot, filled, same⟩, store⟩
    exact ⟨⟨slot, some c.store⟩, ⟨keys, filled, store⟩, same, rfl⟩
  · rintro ⟨⟨slot, _⟩, ⟨keys, filled, store⟩, same, rfl⟩
    exact ⟨keys, ⟨slot, filled, same⟩, store⟩

theorem ofDocument_mapping (d : Document) (root : d.root = .mapping tag entries) :
    ofDocument d = entries.foldlM (readEntry d) ⟨none, none⟩ >>= fun found =>
      match found.store with
      | some store => pure ⟨found.keyPrefix.getD standardPrefix, store⟩
      | none => .fail (.mismatch [] (.missingField "store")) := by
  rw [ofDocument, root]
  rfl

theorem ofDocument_agree (explicit : AreExplicit entries) (root : d.root = .mapping tag entries) :
    Agree (ofDocument d) (ofDocument d) := by
  rw [ofDocument_mapping d root]
  refine (foldlM_readEntry_agree explicit _).bind fun found => ?_
  split
  · exact .value _
  · exact .failure _ _

theorem ofDocument_eq_pure_iff (explicit : AreExplicit entries)
    (root : d.root = .mapping tag entries) : ofDocument d = pure c ↔ c.IsMadeOf entries := by
  rw [ofDocument_mapping d root, (foldlM_readEntry_agree explicit _).bind_eq_pure_iff,
    isMadeOf_iff]
  simp only [foldlM_readEntry_eq_pure_iff explicit]
  refine exists_congr fun found => and_congr_right fun _ => ?_
  obtain ⟨keyPrefix, store⟩ := found
  obtain ⟨keyPrefix', store'⟩ := c
  cases store with
  | none => exact iff_of_false fail_ne_pure nofun
  | some store =>
      simp only [pure_inj, Config.mk.injEq, Option.some.injEq]
      rw [eq_comm (a := keyPrefix')]

end Config

end StatusLookup
