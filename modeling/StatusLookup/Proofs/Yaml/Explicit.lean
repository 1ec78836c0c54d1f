import Mathlib.Data.List.Forall2
import Mathlib.Data.List.Perm.Basic
import StatusLookup.Yaml.Decode

/-!
# Readings without aliases

Only aliases are counted by a reading, and only for them does it need more of the document than the
node it reads. Where everything is written out, a reading gives a value or fails, and it does so in
every document and wherever the node stands. Two readings are compared for this: of what one of them
is made they agree in every part, so they agree as a whole.
-/

namespace StatusLookup.Yaml

namespace Reading

/-- Two readings give the same value or both fail, and neither counts anything. -/
inductive Agree {α : Type} : Reading α → Reading α → Prop where
  | value (a : α) : Agree (pure a) (pure a)
  | failure (e e' : YamlError) : Agree (fail e) (fail e')

variable {α β : Type} {r r' : Reading α} {f f' : α → Reading β} {a b : α} {e : YamlError}

theorem pure_inj : (pure a : Reading α) = pure b ↔ a = b := by
  constructor
  · intro same
    exact congrArg Prod.fst (Except.ok.inj (congrFun same 0))
  · rintro rfl
    rfl

theorem fail_ne_pure : (fail e : Reading α) ≠ pure a := by
  intro same
  exact absurd (congrFun same 0) nofun

theorem fail_bind (e : YamlError) (f : α → Reading β) : (fail e >>= f) = fail e := rfl

theorem Agree.eq_pure_iff (agree : Agree r r') : r = pure a ↔ r' = pure a := by
  cases agree with
  | value => exact Iff.rfl
  | failure => exact iff_of_false fail_ne_pure fail_ne_pure

/-- Two parts agree if the second ones do after each value of the first ones. -/
theorem Agree.bind_of_pure (first : Agree r r') (next : ∀ a, r = pure a → Agree (f a) (f' a)) :
    Agree (r >>= f) (r' >>= f') := by
  cases first with
  | value a =>
      rw [pure_bind, pure_bind]
      exact next a rfl
  | failure e e' => exact .failure e e'

theorem Agree.bind (first : Agree r r') (next : ∀ a, Agree (f a) (f' a)) :
    Agree (r >>= f) (r' >>= f') :=
  first.bind_of_pure fun a _ => next a

theorem Agree.pure_or_fail (agree : Agree r r') : (∃ a, r = pure a) ∨ ∃ e, r = fail e := by
  cases agree with
  | value a => exact .inl ⟨a, rfl⟩
  | failure e => exact .inr ⟨e, rfl⟩

/-- Two parts give a value if the first one does and then the second. -/
theorem Agree.bind_eq_pure_iff (first : Agree r r) {b : β} :
    (r >>= f) = pure b ↔ ∃ a, r = pure a ∧ f a = pure b := by
  rcases first.pure_or_fail with ⟨a, rfl⟩ | ⟨e, rfl⟩
  · simp only [pure_bind, pure_inj, exists_eq_left']
  · rw [fail_bind]
    exact iff_of_false fail_ne_pure fun ⟨a, given, _⟩ => fail_ne_pure given

theorem Agree.mapM {xs : List α} (each : ∀ x ∈ xs, Agree (f x) (f' x)) :
    Agree (xs.mapM f) (xs.mapM f') := by
  induction xs with
  | nil => exact .value []
  | cons x xs ih =>
      obtain ⟨head, tail⟩ := List.forall_mem_cons.mp each
      rw [List.mapM_cons, List.mapM_cons]
      exact head.bind fun y => (ih tail).bind fun ys => .value (y :: ys)

theorem mapM_eq_pure_iff {xs : List α} {ys : List β} (each : ∀ x ∈ xs, Agree (f x) (f x)) :
    xs.mapM f = pure ys ↔ List.Forall₂ (fun x y => f x = pure y) xs ys := by
  induction xs generalizing ys with
  | nil => rw [List.mapM_nil, pure_inj, List.forall₂_nil_left_iff, eq_comm]
  | cons x xs ih =>
      obtain ⟨head, tail⟩ := List.forall_mem_cons.mp each
      rw [List.mapM_cons, head.bind_eq_pure_iff, List.forall₂_cons_left_iff]
      refine exists_congr fun y => ?_
      simp only [(Agree.mapM tail).bind_eq_pure_iff, ih tail, pure_inj]
      constructor
      · rintro ⟨given, ys, others, rfl⟩
        exact ⟨ys, given, others, rfl⟩
      · rintro ⟨ys, given, others, rfl⟩
        exact ⟨given, ys, others, rfl⟩

theorem Agree.foldlM {g g' : α → β → Reading α} {xs : List β}
    (each : ∀ a, ∀ x ∈ xs, Agree (g a x) (g' a x)) (a : α) :
    Agree (xs.foldlM g a) (xs.foldlM g' a) := by
  induction xs generalizing a with
  | nil => exact .value a
  | cons x xs ih =>
      rw [List.foldlM_cons, List.foldlM_cons]
      exact (each a x List.mem_cons_self).bind
        (ih fun b y member => each b y (List.mem_cons_of_mem x member))

/-- What many steps come to is known from what one step comes to. -/
theorem foldlM_eq_pure_iff {σ : Type} {step : σ → β → Reading σ} {comesTo : List β → σ → σ → Prop}
    (nil : ∀ s s', comesTo [] s s' ↔ s' = s)
    (cons : ∀ x xs s s',
      comesTo (x :: xs) s s' ↔ ∃ middle, comesTo [x] s middle ∧ comesTo xs middle s')
    {xs : List β} (agree : ∀ x ∈ xs, ∀ s, Agree (step s x) (step s x))
    (each : ∀ x ∈ xs, ∀ s s', step s x = pure s' ↔ comesTo [x] s s') (s s' : σ) :
    xs.foldlM step s = pure s' ↔ comesTo xs s s' := by
  induction xs generalizing s with
  | nil => rw [List.foldlM_nil, pure_inj, nil, eq_comm]
  | cons x xs ih =>
      obtain ⟨agree, others⟩ := List.forall_mem_cons.mp agree
      obtain ⟨first, rest⟩ := List.forall_mem_cons.mp each
      rw [List.foldlM_cons, (agree s).bind_eq_pure_iff, cons]
      exact exists_congr fun middle => and_congr (first s middle) (ih others rest middle)

section Once

variable {γ : Type} {slot : Option γ} {next : α → β}

theorem Agree.once (agree : Agree r r') (e e' : YamlError) (slot : Option γ) (next : α → β) :
    Agree (if slot.isSome then fail e else r >>= fun a => pure (next a))
      (if slot.isSome then fail e' else r' >>= fun a => pure (next a)) := by
  split
  · exact .failure e e'
  · exact agree.bind fun a => .value (next a)

/-- What is read only once is read while nothing has been read yet. -/
theorem Agree.once_eq_pure_iff (agree : Agree r r) {b : β} :
    (if slot.isSome then fail e else r >>= fun a => pure (next a)) = pure b ↔
      slot = none ∧ ∃ a, r = pure a ∧ b = next a := by
  cases slot with
  | some c => exact iff_of_false fail_ne_pure nofun
  | none =>
      rw [Option.isSome_none, if_neg Bool.false_ne_true, agree.bind_eq_pure_iff, and_iff_right rfl]
      simp only [pure_inj, eq_comm]

end Once

/-- A reading that counts nothing decides alone what a complete document holds. -/
theorem run?_eq_ok_iff {reader : Document → Reading α} {d : Document}
    (agree : Agree (reader d) (reader d)) :
    run? reader d = .ok a ↔ reader d = pure a ∧ d.isComplete = true := by
  rw [run?]
  rcases agree.pure_or_fail with ⟨b, given⟩ | ⟨e, failed⟩
  · rw [given, pure_inj]
    show (if d.isComplete then Except.ok b else Except.error YamlError.malformed) = .ok a ↔ _
    split <;> simp [*]
  · rw [failed]
    exact iff_of_false nofun fun both => fail_ne_pure both.1

end Reading

open Reading

namespace Node

/-- A node in which everything is written out. It has neither aliases nor a cut. -/
inductive IsExplicit : Node → Prop where
  | scalar (tag : Option Tag) (text : String) (isPlain : Bool) :
      IsExplicit (.scalar tag text isPlain)
  | sequence {tag : Option Tag} {items : List Node} :
      (∀ item ∈ items, IsExplicit item) → IsExplicit (.sequence tag items)
  | mapping {tag : Option Tag} {entries : List (Node × Node)} :
      (∀ entry ∈ entries, IsExplicit entry.1) → (∀ entry ∈ entries, IsExplicit entry.2) →
      IsExplicit (.mapping tag entries)

def text? : Node → Option String
  | scalar _ text _ => some text
  | _ => none

variable {n : Node} {items : List Node} {entries : List (Node × Node)} {d d' : Document}
  {path path' : YamlPath} {wanted : Wanted}

def AreExplicit (entries : List (Node × Node)) : Prop :=
  ∀ entry ∈ entries, entry.1.IsExplicit ∧ entry.2.IsExplicit

theorem isExplicit_mapping_iff {tag : Option Tag} :
    (mapping tag entries).IsExplicit ↔ AreExplicit entries := by
  constructor
  · rintro (_ | _ | ⟨keys, values⟩) entry member
    exact ⟨keys entry member, values entry member⟩
  · intro explicit
    exact .mapping (fun entry member => (explicit entry member).1)
      fun entry member => (explicit entry member).2

theorem AreExplicit.fields {tag : Option Tag} {key : Node} {fields : List (Node × Node)}
    (explicit : AreExplicit entries) (listed : (key, .mapping tag fields) ∈ entries) :
    AreExplicit fields :=
  isExplicit_mapping_iff.mp (explicit (key, .mapping tag fields) listed).2

theorem AreExplicit.replace {front back : List (Node × Node)} {key value value' : Node}
    (explicit : AreExplicit (front ++ (key, value) :: back))
    (written : value.IsExplicit → value'.IsExplicit) :
    AreExplicit (front ++ (key, value') :: back) := by
  rw [AreExplicit, List.forall_mem_append, List.forall_mem_cons] at explicit ⊢
  obtain ⟨before, ⟨key, value⟩, behind⟩ := explicit
  exact ⟨before, ⟨key, written value⟩, behind⟩

theorem areWhole_of_forall (whole : ∀ item ∈ items, item.isWhole = true) :
    areWhole items = true := by
  induction items with
  | nil => rfl
  | cons item items ih =>
      obtain ⟨head, tail⟩ := List.forall_mem_cons.mp whole
      rw [areWhole, head, ih tail]
      rfl

theorem areEntriesWhole_of_forall (keys : ∀ entry ∈ entries, entry.1.isWhole = true)
    (values : ∀ entry ∈ entries, entry.2.isWhole = true) : areEntriesWhole entries = true := by
  induction entries with
  | nil => rfl
  | cons entry entries ih =>
      obtain ⟨key, keys⟩ := List.forall_mem_cons.mp keys
      obtain ⟨value, values⟩ := List.forall_mem_cons.mp values
      rw [areEntriesWhole, key, value, ih keys values]
      rfl

theorem IsExplicit.isWhole (explicit : n.IsExplicit) : n.isWhole = true := by
  induction explicit with
  | scalar => rfl
  | sequence _ whole => exact areWhole_of_forall whole
  | mapping _ _ keys values => exact areEntriesWhole_of_forall keys values

theorem IsExplicit.follow_eq (explicit : n.IsExplicit) (d : Document) : d.follow n = pure n := by
  cases explicit <;> rfl

theorem IsExplicit.skip_eq (explicit : n.IsExplicit) : n.skip = pure () :=
  if_pos explicit.isWhole

theorem IsExplicit.of_text? {text : String} (isText : n.text? = some text) : n.IsExplicit := by
  cases n with
  | scalar => exact .scalar _ _ _
  | _ => exact absurd isText nofun

theorem IsExplicit.readText_agree (explicit : n.IsExplicit) :
    Agree (n.readText d path wanted) (n.readText d' path' wanted) := by
  cases explicit with
  | scalar tag text isPlain => exact .value text
  | sequence => exact .failure _ _
  | mapping => exact .failure _ _

theorem IsExplicit.readText_eq_pure_iff (explicit : n.IsExplicit) {text : String} :
    n.readText d path wanted = pure text ↔ n.text? = some text := by
  cases explicit with
  | scalar tag text' isPlain => exact pure_inj.trans Option.some_inj.symm
  | sequence => exact iff_of_false fail_ne_pure nofun
  | mapping => exact iff_of_false fail_ne_pure nofun

theorem IsExplicit.readEntries_agree (explicit : n.IsExplicit) :
    Agree (n.readEntries d path wanted) (n.readEntries d' path' wanted) := by
  cases explicit with
  | scalar tag text isPlain =>
      rw [readEntries, readEntries]
      show Agree (ite _ _ _) (ite _ _ _)
      split
      · exact .value []
      · exact .failure _ _
  | sequence => exact .failure _ _
  | mapping => exact .value _

theorem IsExplicit.areExplicit_of_readEntries (explicit : n.IsExplicit)
    (given : n.readEntries d path wanted = pure entries) : AreExplicit entries := by
  cases explicit with
  | scalar tag text isPlain =>
      change ite _ _ _ = _ at given
      split at given
      · obtain rfl := pure_inj.mp given
        exact List.forall_mem_nil _
      · exact absurd given fail_ne_pure
  | sequence => exact absurd given fail_ne_pure
  | mapping keys values =>
      obtain rfl := pure_inj.mp given
      exact fun entry member => ⟨keys entry member, values entry member⟩

theorem checkTag_agree (tag : Option Tag) : Agree (checkTag path tag) (checkTag path' tag) := by
  rw [checkTag, checkTag]
  split
  · exact .failure _ _
  · exact .value ()

/-- The value of a scalar apart from its notation. -/
def scalarContent (path : YamlPath) (tag : Option Tag) (text : String) (isPlain : Bool) :
    Reading Content := do
  checkTag path tag
  match ScalarValue.ofScalar? tag text isPlain with
  | none => .fail .malformed
  | some value =>
    match value.content? with
    | some c => return c
    | none => .fail (.mismatch path (.wrongType value.found .anything))

theorem readContent_scalar (d : Document) (depth : Nat) (path : YamlPath) (tag : Option Tag)
    (text : String) (isPlain : Bool) :
    (scalar tag text isPlain).readContent d depth path = scalarContent path tag text isPlain := by
  rw [readContent]
  rfl

theorem scalarContent_agree (tag : Option Tag) (text : String) (isPlain : Bool) :
    Agree (scalarContent path tag text isPlain) (scalarContent path' tag text isPlain) := by
  refine (checkTag_agree tag).bind fun _ => ?_
  split
  · exact .failure _ _
  · split
    · exact .value _
    · exact .failure _ _

/-- The key and the value of an entry apart from their notation. -/
def entryContent (d : Document) (depth : Nat) (path : YamlPath) (entry : Node × Node) :
    Reading (Content × Content) := do
  let key ← entry.1.readContent d depth path
  let value ← entry.2.readContent d depth (entry.1.step :: path)
  return (key, value)

theorem readContent_mapping_succ (d : Document) (depth : Nat) (path : YamlPath) (tag : Option Tag)
    (entries : List (Node × Node)) :
    (mapping tag entries).readContent d (depth + 1) path =
      checkTag path tag >>= fun _ =>
        entries.mapM (entryContent d depth path) >>= fun contents => pure (.map contents) := by
  rw [readContent]
  rfl

theorem readContent_sequence_succ (d : Document) (depth : Nat) (path : YamlPath) (tag : Option Tag)
    (items : List Node) :
    (sequence tag items).readContent d (depth + 1) path =
      checkTag path tag >>= fun _ =>
        (items.zipIdx.mapM fun item => item.1.readContent d depth (.item item.2 :: path)) >>=
          fun contents => pure (.list contents) := by
  rw [readContent]
  rfl

/-- The value of a node that is written out is the same in every document. -/
theorem IsExplicit.readContent_agree (explicit : n.IsExplicit) (depth : Nat) :
    Agree (n.readContent d depth path) (n.readContent d' depth path') := by
  -- Every level of nesting takes one from the depth, so the induction is on the depth.
  induction depth generalizing n path path' with
  | zero =>
      rw [readContent, readContent, explicit.follow_eq, explicit.follow_eq, pure_bind, pure_bind]
      cases explicit with
      | scalar tag text isPlain => exact scalarContent_agree tag text isPlain
      | sequence => exact (checkTag_agree _).bind fun _ => .failure _ _
      | mapping => exact (checkTag_agree _).bind fun _ => .failure _ _
  | succ depth ih =>
      cases explicit with
      | scalar tag text isPlain =>
          rw [readContent_scalar, readContent_scalar]
          exact scalarContent_agree tag text isPlain
      | sequence items =>
          rw [readContent_sequence_succ, readContent_sequence_succ]
          refine (checkTag_agree _).bind fun _ => Agree.bind (.mapM ?_) fun _ => .value _
          intro item member
          exact ih (items item.1 (List.fst_mem_of_mem_zipIdx member))
      | mapping keys values =>
          rw [readContent_mapping_succ, readContent_mapping_succ]
          refine (checkTag_agree _).bind fun _ => Agree.bind (.mapM ?_) fun _ => .value _
          intro entry member
          exact (ih (keys entry member)).bind fun key =>
            (ih (values entry member)).bind fun value => .value (key, value)

theorem entryContent_agree {entry : Node × Node} (key : entry.1.IsExplicit)
    (value : entry.2.IsExplicit) (depth : Nat) :
    Agree (entryContent d depth path entry) (entryContent d' depth path' entry) :=
  (key.readContent_agree depth).bind fun _ =>
    (value.readContent_agree depth).bind fun _ => .value _

/-- The order of the entries of a mapping shows in the order of the entries of its value, and in
nothing else. -/
theorem IsExplicit.exists_readContent_of_perm {tag : Option Tag} {depth : Nat} {c : Content}
    {entries entries' : List (Node × Node)} (perm : entries.Perm entries')
    (explicit : (Node.mapping tag entries).IsExplicit)
    (given : (Node.mapping tag entries).readContent d (depth + 1) path = pure c) :
    ∃ contents contents', c = .map contents ∧ contents.Perm contents' ∧
      (Node.mapping tag entries').readContent d (depth + 1) path = pure (.map contents') := by
  obtain _ | _ | ⟨keys, values⟩ := explicit
  have each : ∀ entry ∈ entries,
      Agree (entryContent d depth path entry) (entryContent d depth path entry) :=
    fun entry member => entryContent_agree (keys entry member) (values entry member) depth
  have each' : ∀ entry ∈ entries',
      Agree (entryContent d depth path entry) (entryContent d depth path entry) :=
    fun entry member => each entry (perm.mem_iff.mpr member)
  have tagged : Agree (checkTag path tag) (checkTag path tag) := checkTag_agree tag
  rw [readContent_mapping_succ, tagged.bind_eq_pure_iff] at given
  obtain ⟨_, checked, given⟩ := given
  rw [(Agree.mapM each).bind_eq_pure_iff] at given
  obtain ⟨contents, read, same⟩ := given
  obtain ⟨contents', read', perm'⟩ :=
    List.perm_comp_forall₂ perm.symm ((mapM_eq_pure_iff each).mp read)
  refine ⟨contents, contents', (pure_inj.mp same).symm, perm'.symm, ?_⟩
  rw [readContent_mapping_succ, checked, pure_bind, (mapM_eq_pure_iff each').mpr read', pure_bind]

/-- In every document and at every place, the node is read as this value. -/
def StandsFor {α : Type} (reader : Document → YamlPath → Node → Reading α) (n : Node) (a : α) :
    Prop :=
  ∀ d path, reader d path n = pure a

/-- If a node is read alike everywhere, it stands for what it is read as anywhere. -/
theorem standsFor_iff {α : Type} (reader : Document → YamlPath → Node → Reading α) {a : α}
    (agree : ∀ d path d' path', Agree (reader d path n) (reader d' path' n)) (d : Document)
    (path : YamlPath) : reader d path n = pure a ↔ n.StandsFor reader a := by
  constructor
  · intro given d' path'
    exact (agree d path d' path').eq_pure_iff.mp given
  · intro always
    exact always d path

end Node

end StatusLookup.Yaml
