import StatusLookup.Config.Basic
import StatusLookup.Proofs.Observed
import StatusLookup.Proofs.Text.Utf8

/-!
# Which key prefix a configuration stands for

The text of a prefix is written in the configuration, or it is what a variable gives, or it is what
stands in for a variable that gives nothing. A variable gives a text when its value is the encoding
of that text, be the text empty. There is at most one such text, and it alone decides: a text that
is no prefix is an error, even where something stands ready to fall back on.

To resolve a prefix reads the environment and does nothing else. So the one variable that is named
is all that can make a difference between two worlds, and a repository is set up before anything is
read through it.
-/

namespace StatusLookup

/-- The variable is set, and its value is the encoding of the text. -/
def World.Gives (w : World) (name text : String) : Prop :=
  w.valueOf? name = some (Utf8.encode text)

theorem World.bind_decode?_eq_some_iff {w : World} {name text : String} :
    (w.valueOf? name).bind Utf8.decode? = some text ↔ w.Gives name text := by
  simp only [Option.bind_eq_some_iff, Utf8.decode?_eq_some_iff]
  constructor
  · rintro ⟨bytes, set, rfl⟩
    exact set
  · intro gives
    exact ⟨_, gives, rfl⟩

namespace EnvValue

/-- The text that a value stands for in a world. -/
inductive StandsFor (w : World) : EnvValue → String → Prop where
  | literal (text : String) : StandsFor w (.literal text) text
  | variable {name text : String} (fallback : Option String) :
      w.Gives name text → StandsFor w (.fromVariable name fallback) text
  | fallback {name : String} (text : String) :
      (∀ given, ¬ w.Gives name given) → StandsFor w (.fromVariable name (some text)) text

/-- The value names a variable that gives nothing, and nothing to fall back on. -/
def IsMissing (w : World) (v : EnvValue) (name : String) : Prop :=
  v = .fromVariable name none ∧ ∀ given, ¬ w.Gives name given

variable {w w' : World} {v : EnvValue} {name text : String}

/-- A value stands for a text unless its variable is missing. -/
theorem standsFor_or_isMissing (w : World) (v : EnvValue) :
    (∃ text, v.StandsFor w text) ∨ ∃ name, v.IsMissing w name := by
  cases v with
  | literal text => exact .inl ⟨text, .literal text⟩
  | fromVariable name fallback =>
      by_cases given : ∃ text, w.Gives name text
      · obtain ⟨text, gives⟩ := given
        exact .inl ⟨text, .variable fallback gives⟩
      · have unset : ∀ text, ¬ w.Gives name text := not_exists.mp given
        cases fallback with
        | none => exact .inr ⟨name, rfl, unset⟩
        | some text => exact .inl ⟨text, .fallback text unset⟩

theorem bind_decode?_eq_none (unset : ∀ given, ¬ w.Gives name given) :
    (w.valueOf? name).bind Utf8.decode? = none := by
  rw [Option.eq_none_iff_forall_ne_some]
  intro given decoded
  exact unset given (World.bind_decode?_eq_some_iff.mp decoded)

/-- A value is resolved to the text that it stands for. -/
theorem StandsFor.resolve_run (stands : v.StandsFor w text) (t : Trace) :
    ((v.resolve : Observed _).run w).run t = (.ok text, t) := by
  cases stands with
  | literal => rfl
  | «variable» fallback gives =>
      rw [resolve, Observed.run_bind_of_run (Observed.getVariable_run _ w t),
        World.bind_decode?_eq_some_iff.mpr gives]
      rfl
  | fallback text unset =>
      rw [resolve, Observed.run_bind_of_run (Observed.getVariable_run _ w t),
        bind_decode?_eq_none unset]
      rfl

theorem IsMissing.resolve_run (missing : v.IsMissing w name) (t : Trace) :
    ((v.resolve : Observed _).run w).run t = (.error (.missingVariable name), t) := by
  obtain ⟨rfl, unset⟩ := missing
  rw [resolve, Observed.run_bind_of_run (Observed.getVariable_run _ w t),
    bind_decode?_eq_none unset]
  rfl

/-- The variable that the value names, if it names one, gives the same in both worlds. -/
def Agree (v : EnvValue) (w w' : World) : Prop :=
  ∀ name fallback, v = .fromVariable name fallback → ∀ text, w.Gives name text ↔ w'.Gives name text

theorem Agree.standsFor (agree : v.Agree w w') (stands : v.StandsFor w text) :
    v.StandsFor w' text := by
  cases stands with
  | literal => exact .literal text
  | «variable» fallback gives => exact .variable fallback ((agree _ _ rfl text).mp gives)
  | fallback text unset =>
      exact .fallback text fun given gives => unset given ((agree _ _ rfl given).mpr gives)

theorem Agree.isMissing (agree : v.Agree w w') (missing : v.IsMissing w name) :
    v.IsMissing w' name := by
  obtain ⟨rfl, unset⟩ := missing
  exact ⟨rfl, fun given gives => unset given ((agree _ _ rfl given).mpr gives)⟩

end EnvValue

namespace Config

/-- What becomes of the key prefix of a configuration in a world: the text that it stands for is a
prefix, or is refused as one, or there is no text. -/
inductive Resolves (w : World) (c : Config) : Except Failure KeyPrefix → Prop where
  | ok {text : String} {p : KeyPrefix} :
      c.keyPrefix.StandsFor w text → KeyPrefix.ofString text = .ok p → Resolves w c (.ok p)
  | invalid {text : String} {e : KeyPrefixError} :
      c.keyPrefix.StandsFor w text → KeyPrefix.ofString text = .error e →
        Resolves w c (.error (.invalidConfig e))
  | missing {name : String} :
      c.keyPrefix.IsMissing w name → Resolves w c (.error (.missingVariable name))

def recordsUnder (c : Config) (p : KeyPrefix) : Repository Observed :=
  ⟨FileStore.toStore ⟨c.store.root⟩, p⟩

variable {c : Config} {w w' : World} {outcome : Except Failure KeyPrefix}

theorem exists_resolves (w : World) (c : Config) : ∃ outcome, c.Resolves w outcome := by
  rcases c.keyPrefix.standsFor_or_isMissing w with ⟨text, stands⟩ | ⟨name, missing⟩
  · cases read : KeyPrefix.ofString text with
    | ok p => exact ⟨_, .ok stands read⟩
    | error e => exact ⟨_, .invalid stands read⟩
  · exact ⟨_, .missing missing⟩

/-- To resolve the prefix leaves no trace. -/
theorem Resolves.run (resolves : c.Resolves w outcome) (t : Trace) :
    ((c.resolvePrefix : Observed _).run w).run t = (outcome, t) := by
  cases resolves with
  | ok stands accepted =>
      rw [resolvePrefix, Observed.run_bind_of_run (stands.resolve_run t)]
      simp only [accepted]
      rfl
  | invalid stands refused =>
      rw [resolvePrefix, Observed.run_bind_of_run (stands.resolve_run t)]
      simp only [refused]
      rfl
  | missing unset =>
      rw [resolvePrefix, Observed.run_bind_of_run (unset.resolve_run t)]
      rfl

/-- Nor does the set-up of a repository, which fails with the prefix and for no other reason. -/
theorem Resolves.repository_run (resolves : c.Resolves w outcome) (t : Trace) :
    ((c.repository : Observed _).run w).run t = (outcome.map c.recordsUnder, t) := by
  rw [repository, Observed.run_bind_of_run (resolves.run t)]
  cases outcome <;> rfl

theorem Resolves.repository_yields (resolves : c.Resolves w outcome) :
    (c.repository : Observed _).Yields w (outcome.map c.recordsUnder) :=
  fun t => ⟨t, resolves.repository_run t⟩

/-- Worlds that agree on the variable make the same of the prefix. -/
theorem Resolves.of_agree (agree : c.keyPrefix.Agree w w') (resolves : c.Resolves w outcome) :
    c.Resolves w' outcome := by
  cases resolves with
  | ok stands accepted => exact .ok (agree.standsFor stands) accepted
  | invalid stands refused => exact .invalid (agree.standsFor stands) refused
  | missing unset => exact .missing (agree.isMissing unset)

theorem observe_eq_of_agree (agree : c.keyPrefix.Agree w w') :
    (c.resolvePrefix : Observed _).observe w = (c.resolvePrefix : Observed _).observe w' ∧
      (c.repository : Observed _).observe w = (c.repository : Observed _).observe w' := by
  obtain ⟨outcome, resolves⟩ := exists_resolves w c
  have resolves' := resolves.of_agree agree
  constructor
  · rw [Observed.observe_eq_run, Observed.observe_eq_run, resolves.run, resolves'.run]
  · rw [Observed.observe_eq_run, Observed.observe_eq_run, resolves.repository_run,
      resolves'.repository_run]

/-- A configuration has one prefix in a world, or fails for one reason, and the repository is set
up, without a question to the file system, or fails in the same way. Of the world, only what the
named variable gives has a part in it. -/
theorem resolves_iff_and_repository (c : Config) (w : World) :
    (∀ outcome, (c.resolvePrefix : Observed _).result w = outcome ↔ c.Resolves w outcome) ∧
      (∀ e : KeyPrefixError,
        (Failure.invalidConfig e).message = "invalid configuration: " ++ e.message) ∧
      (∀ e, (c.repository : Observed _).result w = .error e ↔
        (c.resolvePrefix : Observed _).result w = .error e) ∧
      (∀ repository, (c.repository : Observed _).result w = .ok repository ↔
        ∃ p, (c.resolvePrefix : Observed _).result w = .ok p ∧
          repository = ⟨FileStore.toStore ⟨c.store.root⟩, p⟩) ∧
      (c.resolvePrefix : Observed _).trace w = Trace.empty ∧
      (c.repository : Observed _).trace w = Trace.empty ∧
      (∀ w', c.keyPrefix.Agree w w' →
        (c.resolvePrefix : Observed _).observe w = (c.resolvePrefix : Observed _).observe w' ∧
          (c.repository : Observed _).observe w = (c.repository : Observed _).observe w') ∧
      (∀ text, c.keyPrefix = .literal text → ∀ w',
        (c.resolvePrefix : Observed _).observe w = (c.resolvePrefix : Observed _).observe w' ∧
          (c.repository : Observed _).observe w = (c.repository : Observed _).observe w') := by
  obtain ⟨outcome, resolves⟩ := exists_resolves w c
  have resolved : (c.resolvePrefix : Observed _).observe w = (outcome, Trace.empty) :=
    resolves.run Trace.empty
  have opened : (c.repository : Observed _).observe w =
      (outcome.map c.recordsUnder, Trace.empty) := resolves.repository_run Trace.empty
  have result : (c.resolvePrefix : Observed _).result w = outcome := congrArg Prod.fst resolved
  have result' : (c.repository : Observed _).result w = outcome.map c.recordsUnder :=
    congrArg Prod.fst opened
  rw [result, result']
  refine ⟨?_, fun e => rfl, ?_, ?_, congrArg Prod.snd resolved, congrArg Prod.snd opened, ?_, ?_⟩
  · intro other
    constructor
    · rintro rfl
      exact resolves
    · intro resolves'
      exact congrArg Prod.fst ((resolves.run Trace.empty).symm.trans (resolves'.run Trace.empty))
  · intro e
    cases outcome <;> simp [Except.map]
  · intro repository
    cases outcome <;> simp [Except.map, recordsUnder, eq_comm]
  · intro w' agree
    exact observe_eq_of_agree agree
  · intro text literal w'
    refine observe_eq_of_agree fun name fallback named => ?_
    rw [literal] at named
    contradiction

/-- An empty value counts as given, whatever there is to fall back on. -/
example : (Config.resolvePrefix ⟨.fromVariable "PREFIX" (some "kv"), ⟨"store"⟩⟩ : Observed _).result
    ⟨⟨.directory [], []⟩, .ok "/", [("PREFIX", [])]⟩ = .error (.invalidConfig .empty) := rfl

end Config

end StatusLookup
