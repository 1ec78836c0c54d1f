import Mathlib.Tactic.MkIffOfInductiveProp
import StatusLookup.CommandLine.Arguments
import StatusLookup.Proofs.Data.Steps

/-!
# Reading only adds

Nothing may be given twice. So what is given at two places can be put together if the two have
nothing in common, and it does not matter which two of three are put together first.

To read arguments is only to add to what has been given before. Reading them when more has been
given comes to the same as reading them first and adding the rest to what they give. A request for
help or for the version is the exception: it ends reading at once, so something that is given twice
behind it is never found.
-/

namespace StatusLookup.CommandLine

namespace Given

/-- Nothing is given by both. -/
@[mk_iff]
structure Disjoint (a b : Given) : Prop where
  config : a.config = none ∨ b.config = none
  verbose : a.verbose = false ∨ b.verbose = false
  switched : a.switched = false ∨ b.switched = false
  text : a.text = none ∨ b.text = none

instance (a b : Given) : Decidable (a.Disjoint b) :=
  decidable_of_iff _ (disjoint_iff a b).symm

/-- What is given by one of the two. -/
def union (a b : Given) : Given :=
  ⟨a.config.or b.config, a.verbose || b.verbose, a.switched || b.switched, a.text.or b.text⟩

/-- Both together. What both give is given twice. -/
def add (a b : Given) : Except Stop Given :=
  if a.Disjoint b then .ok (a.union b) else .error .usage

variable (a b c g : Given)

theorem union_assoc : (a.union b).union c = a.union (b.union c) := by
  simp only [union, Option.or_assoc, Bool.or_assoc]

theorem disjoint_union_left_iff : (a.union b).Disjoint c ↔ a.Disjoint c ∧ b.Disjoint c := by
  simp only [disjoint_iff, union, Option.or_eq_none_iff, Bool.or_eq_false_iff, and_or_right,
    and_assoc, and_left_comm]

theorem disjoint_union_right_iff : a.Disjoint (b.union c) ↔ a.Disjoint b ∧ a.Disjoint c := by
  simp only [disjoint_iff, union, Option.or_eq_none_iff, Bool.or_eq_false_iff, or_and_left,
    and_assoc, and_left_comm]

variable {a b c g}

theorem add_of_disjoint (disjoint : a.Disjoint b) : a.add b = .ok (a.union b) :=
  if_pos disjoint

theorem add_of_not_disjoint (shared : ¬ a.Disjoint b) : a.add b = .error .usage :=
  if_neg shared

variable (a b c g)

/-- Of three it does not matter which two are put together first. -/
theorem add_assoc : (a.add b >>= fun d => d.add c) = b.add c >>= a.add := by
  by_cases left : a.Disjoint b <;> by_cases right : b.Disjoint c
  · rw [add_of_disjoint left, add_of_disjoint right]
    show (a.union b).add c = a.add (b.union c)
    have same : (a.union b).Disjoint c ↔ a.Disjoint (b.union c) := by
      rw [disjoint_union_left_iff, disjoint_union_right_iff]
      tauto
    rw [add, add, union_assoc]
    exact if_congr same rfl rfl
  · rw [add_of_disjoint left, add_of_not_disjoint right]
    exact add_of_not_disjoint fun h => right ((disjoint_union_left_iff a b c).mp h).2
  · rw [add_of_not_disjoint left, add_of_disjoint right]
    exact (add_of_not_disjoint fun h => left ((disjoint_union_right_iff a b c).mp h).1).symm
  · rw [add_of_not_disjoint left, add_of_not_disjoint right]
    rfl

theorem add_nothing : a.add nothing = .ok a := by
  rw [add_of_disjoint ⟨.inr rfl, .inr rfl, .inr rfl, .inr rfl⟩]
  simp only [union, nothing, Option.or_none, Bool.or_false]

theorem nothing_add : nothing.add a = .ok a :=
  add_of_disjoint ⟨.inl rfl, .inl rfl, .inl rfl, .inl rfl⟩

/-- What holds for every command, and nothing else. -/
def ofOptions (options : Options) : Given :=
  ⟨options.config, options.verbose, false, none⟩

theorem setConfig_empty : g.setConfig "" = .error .usage :=
  if_pos (.inr rfl)

theorem setConfig_eq {path : String} (named : path ≠ "") :
    g.setConfig path = g.add (ofOptions ⟨some path, false⟩) := by
  rw [setConfig, add]
  cases given : g.config <;> simp [disjoint_iff, union, ofOptions, given, named]

theorem setVerbose_eq : g.setVerbose = g.add (ofOptions ⟨none, true⟩) := by
  rw [setVerbose, add]
  cases given : g.verbose <;> simp [disjoint_iff, union, ofOptions, given]

theorem setSwitch_eq : g.setSwitch = g.add { nothing with switched := true } := by
  rw [setSwitch, add]
  cases given : g.switched <;> simp [disjoint_iff, union, nothing, given]

theorem setText_eq (text : String) : g.setText text = g.add { nothing with text := some text } := by
  rw [setText, add]
  cases given : g.text <;> simp [disjoint_iff, union, nothing, given]

theorem add_eq_error {stop : Stop} (refused : a.add b = .error stop) : stop = .usage := by
  by_cases disjoint : a.Disjoint b
  · rw [add_of_disjoint disjoint] at refused
    contradiction
  · rw [add_of_not_disjoint disjoint] at refused
    exact (Except.error.inj refused).symm

end Given

/-- A result of reading that carries what has been given. -/
class Carries (α : Type) where
  /-- Puts what has been given before to the result. -/
  add : Given → α → Except Stop α

instance : Carries Given := ⟨Given.add⟩

instance {α β : Type} [Carries α] : Carries (α × β) :=
  ⟨fun a p => Carries.add a p.1 >>= fun x => .ok (x, p.2)⟩

/-- Reading does not end at a request for help or for the version. -/
def NoRequest {α : Type} (read : Except Stop α) : Prop :=
  ∀ stop, read = .error stop → stop = .usage

theorem NoRequest.of_bind {α β : Type} {read : Except Stop α} {next : α → Except Stop β}
    (quiet : NoRequest (read >>= next)) : NoRequest read :=
  fun stop stops => quiet stop (bind_eq_error_iff.mpr (.inl stops))

theorem NoRequest.bind {α β : Type} {read : Except Stop α} {next : α → Except Stop β}
    (quiet : NoRequest read) (quiet' : ∀ x, NoRequest (next x)) : NoRequest (read >>= next) := by
  intro stop stops
  rcases bind_eq_error_iff.mp stops with stops | ⟨x, -, stops⟩
  · exact quiet stop stops
  · exact quiet' x stop stops

/-- To read when more has been given is to read first and to add the rest then. -/
def OnlyAdds {α β : Type} [Carries α] [Carries β] (read : α → Except Stop β) : Prop :=
  ∀ a x, NoRequest (read x) → (Carries.add a x >>= read) = read x >>= Carries.add a

section Steps

variable {α β : Type}

theorem onlyAdds_error (stop : Stop) [Carries β] :
    OnlyAdds fun _ : Given => (.error stop : Except Stop β) := by
  intro a g quiet
  obtain rfl : stop = .usage := quiet stop rfl
  show (a.add g >>= fun _ => .error .usage) = .error .usage
  cases both : a.add g with
  | error stop => exact congrArg Except.error (Given.add_eq_error a g both)
  | ok _ => rfl

theorem onlyAdds_pure [Carries α] : OnlyAdds fun x : α => (.ok x : Except Stop α) :=
  fun a x _ => bind_pure (Carries.add a x)

/-- What else a result says is not changed. -/
theorem onlyAdds_pair [Carries α] (b : β) :
    OnlyAdds fun x : α => (.ok (x, b) : Except Stop (α × β)) :=
  fun _ _ _ => rfl

theorem onlyAdds_add (new : Given) : OnlyAdds fun g : Given => g.add new :=
  fun a g _ => a.add_assoc g new

theorem onlyAdds_setConfig (path : String) : OnlyAdds fun g : Given => g.setConfig path := by
  by_cases named : path = ""
  · subst named
    simp only [Given.setConfig_empty]
    exact onlyAdds_error .usage
  · simp only [Given.setConfig_eq _ named]
    exact onlyAdds_add _

theorem onlyAdds_setVerbose : OnlyAdds Given.setVerbose := by
  rw [funext Given.setVerbose_eq]
  exact onlyAdds_add _

theorem onlyAdds_setSwitch : OnlyAdds Given.setSwitch := by
  rw [funext Given.setSwitch_eq]
  exact onlyAdds_add _

theorem onlyAdds_setText (text : String) : OnlyAdds fun g : Given => g.setText text := by
  simp only [Given.setText_eq]
  exact onlyAdds_add _

end Steps

section Sequences

variable {α β γ : Type} [Carries α] [Carries γ]

/-- Of two steps that only add, the first one decides what the second one adds. -/
theorem OnlyAdds.bind [Carries β] {first : α → Except Stop β} {next : β → Except Stop γ}
    (adds : OnlyAdds first) (adds' : OnlyAdds next) : OnlyAdds fun x => first x >>= next := by
  intro a x quiet
  have later : (first x >>= fun y => Carries.add a y >>= next) =
      first x >>= fun y => next y >>= Carries.add a := by
    change NoRequest (first x >>= next) at quiet
    cases read : first x with
    | error stop => rfl
    | ok y =>
        rw [read] at quiet
        exact adds' a y quiet
  calc (Carries.add a x >>= fun x => first x >>= next)
      = (Carries.add a x >>= first) >>= next := (bind_assoc _ _ _).symm
    _ = (first x >>= Carries.add a) >>= next := by rw [adds a x quiet.of_bind]
    _ = first x >>= fun y => Carries.add a y >>= next := bind_assoc _ _ _
    _ = first x >>= fun y => next y >>= Carries.add a := later
    _ = (first x >>= next) >>= Carries.add a := (bind_assoc _ _ _).symm

/-- What a step adds may depend on what else there is in the result before it. -/
theorem onlyAdds_of_forall {next : α × β → Except Stop γ}
    (adds : ∀ b, OnlyAdds fun x => next (x, b)) : OnlyAdds next := by
  rintro a ⟨x, b⟩ quiet
  calc (Carries.add a (x, b) >>= next)
      = Carries.add a x >>= fun x => next (x, b) := bind_assoc _ _ _
    _ = next (x, b) >>= Carries.add a := adds b a x quiet

end Sequences

end StatusLookup.CommandLine
