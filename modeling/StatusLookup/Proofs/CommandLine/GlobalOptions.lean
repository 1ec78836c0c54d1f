import StatusLookup.CommandLine.Run
import StatusLookup.World
import StatusLookup.Proofs.CommandLine.Level

/-!
# Options on either side of a command

What holds for every command may be given in front of its name or behind it. It is read in the same
way at both places. In front it is kept until the command is known, behind it is added to what else
is given there. The two come to the same unless something is then given twice.

Whether log lines are shown is no business of a command: its run is the same with and without them.

Where arguments are refused, only the words in which this is said may tell the sides apart. They are
no part of what a run decides, and they do depend on the side: the right call that they show has the
options in it that were given behind the name.
-/

namespace StatusLookup.CommandLine

def commandNames : List String :=
  ["status", "exists", "parse", "statuses"]

/-- Options with others in front of them, which count less. -/
def Options.behind (options front : Options) : Options :=
  ⟨options.config.or front.config, front.verbose || options.verbose⟩

/-- What arguments come to when there are options in front of them. -/
def withFront (front : Options) (read : Except Stop (Options × Command)) :
    Except Stop (Options × Command) :=
  read.map fun p => (p.1.behind front, p.2)

def Given.options (g : Given) : Options :=
  ⟨g.config, g.verbose⟩

/-- The command of a name, from what is given behind it. -/
def namedCommand (name : String) (inner : Given) : Except Stop (Options × Command) :=
  match commandOf? name inner with
  | none => .error .usage
  | some command => .ok (inner.options, command)

section Commands

variable {front : Options} {name : String} {inner : Given} {command : Command}

theorem namedCommand_of_none (unknown : commandOf? name inner = none) :
    namedCommand name inner = .error .usage := by
  rw [namedCommand, unknown]

theorem namedCommand_of_some (known : commandOf? name inner = some command) :
    namedCommand name inner = .ok (inner.options, command) := by
  rw [namedCommand, known]

theorem withFront_nothing (read : Except Stop (Options × Command)) :
    withFront Given.nothing.options read = read := by
  cases read with
  | error stop => rfl
  | ok p => simp [withFront, Except.map, Options.behind, Given.options, Given.nothing]

theorem noRequest_withFront {read : Except Stop (Options × Command)} (quiet : NoRequest read) :
    NoRequest (withFront front read) := by
  cases read with
  | error stop =>
      rintro _ ⟨⟩
      exact quiet stop rfl
  | ok p => nofun

/-- Options for every command do not change which command it is. -/
theorem commandOf?_union :
    commandOf? name ((Given.ofOptions front).union inner) = commandOf? name inner := by
  simp only [commandOf?, Given.union, Given.ofOptions, Option.none_or, Bool.false_or]

/-- Where nothing is given twice, it does not matter which counts more. -/
theorem options_union (disjoint : (Given.ofOptions front).Disjoint inner) :
    ((Given.ofOptions front).union inner).options = inner.options.behind front := by
  have config : front.config.or inner.config = inner.config.or front.config := by
    rcases disjoint.config with absent | absent
    · change front.config = none at absent
      rw [absent, Option.none_or, Option.or_none]
    · rw [absent, Option.none_or, Option.or_none]
  exact congrArg (Options.mk · (front.verbose || inner.verbose)) config

/-- Options are added to what is given behind the name, or they are kept in front of it. -/
theorem add_bind_namedCommand (apart : ∀ options command, namedCommand name inner =
      .ok (options, command) → (Given.ofOptions front).Disjoint (.ofOptions options)) :
    ((Given.ofOptions front).add inner >>= namedCommand name) =
      withFront front (namedCommand name inner) := by
  cases known : commandOf? name inner with
  | none =>
      rw [namedCommand_of_none known]
      by_cases disjoint : (Given.ofOptions front).Disjoint inner
      · rw [Given.add_of_disjoint disjoint]
        exact namedCommand_of_none (commandOf?_union.trans known)
      · rw [Given.add_of_not_disjoint disjoint]
        rfl
  | some command =>
      have accepted := namedCommand_of_some known
      obtain ⟨config, verbose, -, -⟩ := apart _ _ accepted
      have disjoint : (Given.ofOptions front).Disjoint inner :=
        ⟨config, verbose, .inl rfl, .inl rfl⟩
      rw [Given.add_of_disjoint disjoint, accepted]
      show namedCommand name _ = .ok (inner.options.behind front, command)
      rw [namedCommand_of_some (commandOf?_union.trans known), options_union disjoint]

end Commands

section Reading

variable {name : String} {level : Level} {outer : Given} {args rest : List String}

theorem exists_level (known : name ∈ commandNames) :
    ∃ level, levelOf? name = some level ∧ level.commands = [] := by
  simp only [commandNames, List.mem_cons, List.not_mem_nil, or_false] at known
  rcases known with rfl | rfl | rfl | rfl <;> exact ⟨_, rfl, rfl⟩

theorem commandNames_subset : commandNames ⊆ topLevel.commands := by
  decide

theorem ofArguments_of_error {stop : Stop} (refused : topLevel.take .nothing args = .error stop) :
    ofArguments args = .error stop := by
  rw [ofArguments, refused]
  rfl

theorem ofArguments_of_take (found : topLevel.take .nothing args = .ok (outer, some (name, rest)))
    (known : levelOf? name = some level) :
    ofArguments args =
      withFront outer.options (level.take .nothing rest >>= fun p => namedCommand name p.1) := by
  rw [ofArguments, found]
  dsimp only [bind, Except.bind]
  rw [known]
  dsimp only
  cases level.take .nothing rest with
  | error stop => rfl
  | ok p =>
      dsimp only [namedCommand]
      cases commandOf? name p.1 <;> rfl

theorem ofArguments_cons (known : name ∈ commandNames) (isLevel : levelOf? name = some level)
    (rest : List String) : ofArguments (name :: rest) =
      level.take .nothing rest >>= fun p => namedCommand name p.1 := by
  have found := topLevel.take_name (commandNames_subset known) .nothing rest
  rw [ofArguments_of_take found isLevel, withFront_nothing]

/-- At every level these arguments come to these options, whatever stands behind them. -/
def ReadAs (args : List String) (options : Except Stop Options) : Prop :=
  ∀ level : Level, level.commands ⊆ topLevel.commands → ∀ rest,
    level.take .nothing (args ++ rest) = options >>= fun o => level.take (.ofOptions o) rest

variable {options : Except Stop Options}

/-- Options in front of a command are kept until it has been read. -/
theorem ofArguments_front (readAs : ReadAs args options) (known : name ∈ commandNames)
    (rest : List String) : ofArguments (args ++ name :: rest) =
      options >>= fun o => withFront o (ofArguments (name :: rest)) := by
  have front := readAs topLevel (List.Subset.refl _) (name :: rest)
  cases options with
  | error stop => exact ofArguments_of_error front
  | ok o =>
      obtain ⟨level, isLevel, -⟩ := exists_level known
      have found : topLevel.take .nothing (args ++ name :: rest) =
          .ok (.ofOptions o, some (name, rest)) :=
        front.trans (topLevel.take_name (commandNames_subset known) _ rest)
      rw [ofArguments_of_take found isLevel, ofArguments_cons known isLevel]
      rfl

/-- Options behind the name of a command are added to what is given there. -/
theorem ofArguments_behind (readAs : ReadAs args options) (known : name ∈ commandNames)
    (quiet : NoRequest (ofArguments (name :: rest)))
    (apart : ∀ o, options = .ok o → ∀ options command, ofArguments (name :: rest) =
      .ok (options, command) → (Given.ofOptions o).Disjoint (.ofOptions options)) :
    ofArguments (name :: (args ++ rest)) =
      options >>= fun o => withFront o (ofArguments (name :: rest)) := by
  obtain ⟨level, isLevel, alone⟩ := exists_level known
  have behind := readAs level (alone ▸ List.nil_subset _) rest
  rw [ofArguments_cons known isLevel] at quiet apart
  rw [ofArguments_cons known isLevel, ofArguments_cons known isLevel, behind]
  cases options with
  | error stop => rfl
  | ok o =>
      show (level.take (.ofOptions o) rest >>= fun p => namedCommand name p.1) = withFront o _
      rw [level.take_eq_add quiet.of_bind]
      cases read : level.take .nothing rest with
      | error stop => rfl
      | ok p =>
          rw [read] at apart
          calc (Carries.add (.ofOptions o) p >>= fun p => namedCommand name p.1)
              = (Given.ofOptions o).add p.1 >>= namedCommand name := bind_assoc _ _ _
            _ = withFront o (namedCommand name p.1) := add_bind_namedCommand (apart o rfl)

/-- The configuration file that an argument behind its option gives. -/
def fileOption (path : String) : Except Stop Options :=
  match Argument.ofString path with
  | .text path => if path = "" then .error .usage else .ok ⟨some path, false⟩
  | _ => .error .usage

theorem noRequest_fileOption (path : String) : NoRequest (fileOption path) := by
  rw [fileOption]
  cases Argument.ofString path with
  | text path =>
      dsimp only
      split_ifs
      · rintro _ ⟨⟩
        rfl
      · nofun
  | _ =>
      rintro _ ⟨⟩
      rfl

theorem verbose_of_fileOption {path : String} {o : Options} (file : fileOption path = .ok o) :
    o.verbose = false := by
  rw [fileOption] at file
  cases looks : Argument.ofString path with
  | text path =>
      rw [looks] at file
      dsimp only at file
      split_ifs at file
      cases file
      rfl
  | _ =>
      rw [looks] at file
      contradiction

theorem readAs_config (path : String) : ReadAs ["--config", path] (fileOption path) := by
  intro level inside rest
  have unknown : "--config" ∉ level.commands := fun known => absurd (inside known) (by decide)
  show level.take .nothing ("--config" :: path :: rest) = _
  rw [level.take_cons unknown]
  show level.goOn (path :: rest) (.nothing, true) = _
  rw [Level.goOn, fileOption]
  cases Argument.ofString path with
  | text path =>
      dsimp only
      by_cases empty : path = ""
      · rw [if_pos empty, empty, Given.setConfig_empty]
        rfl
      · rw [if_neg empty, Given.setConfig_eq _ empty, Given.nothing_add]
        rfl
  | _ => rfl

theorem readAs_verbose : ReadAs ["--verbose"] (.ok ⟨none, true⟩) := by
  intro level inside rest
  have unknown : "--verbose" ∉ level.commands := fun known => absurd (inside known) (by decide)
  show level.take .nothing ("--verbose" :: rest) = _
  rw [level.take_cons unknown]
  rfl

end Reading

section Requests

variable {name : String} {args args' rest : List String}

def IsAccepted (args : List String) : Prop :=
  ∃ options command, ofArguments args = .ok (options, command)

/-- The arguments are accepted, and a configuration file is among what they give. -/
def GivesConfig (args : List String) : Prop :=
  ∃ options command, ofArguments args = .ok (options, command) ∧ options.config.isSome

/-- The arguments are accepted, and log lines are among what they ask for. -/
def GivesVerbose (args : List String) : Prop :=
  ∃ options command, ofArguments args = .ok (options, command) ∧ options.verbose

theorem not_isAccepted_of_error {stop : Stop} (refused : ofArguments args = .error stop) :
    ¬ IsAccepted args := by
  rintro ⟨options, command, accepted⟩
  exact absurd (refused.symm.trans accepted) nofun

theorem ofArguments_config_front (known : name ∈ commandNames) (path : String)
    (rest : List String) : ofArguments ("--config" :: path :: name :: rest) =
      fileOption path >>= fun o => withFront o (ofArguments (name :: rest)) :=
  ofArguments_front (readAs_config path) known rest

theorem ofArguments_config_behind (known : name ∈ commandNames)
    (quiet : NoRequest (ofArguments (name :: rest))) (free : ¬ GivesConfig (name :: rest))
    (path : String) : ofArguments (name :: "--config" :: path :: rest) =
      fileOption path >>= fun o => withFront o (ofArguments (name :: rest)) := by
  refine ofArguments_behind (readAs_config path) known quiet ?_
  intro o file options command accepted
  have absent : options.config = none :=
    Option.not_isSome_iff_eq_none.mp fun given => free ⟨options, command, accepted, given⟩
  exact ⟨.inr absent, .inl (verbose_of_fileOption file), .inl rfl, .inl rfl⟩

theorem ofArguments_verbose_front (known : name ∈ commandNames) (rest : List String) :
    ofArguments ("--verbose" :: name :: rest) =
      withFront ⟨none, true⟩ (ofArguments (name :: rest)) :=
  ofArguments_front readAs_verbose known rest

theorem ofArguments_verbose_behind (known : name ∈ commandNames)
    (quiet : NoRequest (ofArguments (name :: rest))) (free : ¬ GivesVerbose (name :: rest)) :
    ofArguments (name :: "--verbose" :: rest) =
      withFront ⟨none, true⟩ (ofArguments (name :: rest)) := by
  refine ofArguments_behind readAs_verbose known quiet ?_
  rintro _ ⟨⟩ options command accepted
  have silent : options.verbose = false :=
    Bool.eq_false_iff.mpr fun shown => free ⟨options, command, accepted, shown⟩
  exact ⟨.inl rfl, .inr silent, .inl rfl, .inl rfl⟩

/-- Both are refused, or both ask for the same command with the same configuration file. -/
inductive SameRequest :
    Except Stop (Options × Command) → Except Stop (Options × Command) → Prop where
  | refused : SameRequest (.error .usage) (.error .usage)
  | accepted (config : Option String) (shown shown' : Bool) (command : Command) :
    SameRequest (.ok (⟨config, shown⟩, command)) (.ok (⟨config, shown'⟩, command))

variable {read : Except Stop (Options × Command)}

theorem sameRequest_refl (quiet : NoRequest read) : SameRequest read read := by
  cases read with
  | error stop =>
      obtain rfl : stop = .usage := quiet stop rfl
      exact .refused
  | ok p => exact .accepted p.1.config p.1.verbose p.1.verbose p.2

theorem sameRequest_verbose (quiet : NoRequest read) :
    SameRequest (withFront ⟨none, true⟩ read) read := by
  cases read with
  | error stop =>
      obtain rfl : stop = .usage := quiet stop rfl
      exact .refused
  | ok p =>
      obtain ⟨⟨config, shown⟩, command⟩ := p
      have added : withFront ⟨none, true⟩ (.ok (⟨config, shown⟩, command)) =
          .ok (⟨config, true⟩, command) := by
        simp only [withFront, Except.map, Options.behind, Option.or_none, Bool.true_or]
      rw [added]
      exact .accepted config true shown command

end Requests

section Runs

variable {name : String} {args args' rest : List String} {notices : Notices}

/-- Two command lines do the same in a world and leave the same behind, except for the words in
which they are refused. -/
structure RunAlike (notices : Notices) (w : World) (args args' : List String) : Prop where
  accepted_iff : IsAccepted args ↔ IsAccepted args'
  exitCode : ((run notices args : Observed _).result w).exitCode =
    ((run notices args' : Observed _).result w).exitCode
  output : ((run notices args : Observed _).result w).output =
    ((run notices args' : Observed _).result w).output
  errors : IsAccepted args → ((run notices args : Observed _).result w).errors =
    ((run notices args' : Observed _).result w).errors
  trace : (run notices args : Observed _).trace w = (run notices args' : Observed _).trace w

variable {m : Type → Type} [Monad m] [Host m]

/-- Whether log lines are shown does not matter to a command. -/
theorem output_verbose (config : Option String) (shown shown' : Bool) (command : Command) :
    (command.output ⟨config, shown⟩ : m _) = command.output ⟨config, shown'⟩ := by
  cases command <;> rfl

theorem run_of_refused (refused : ofArguments args = .error .usage) :
    (run notices args : m Outcome) = pure ⟨2, "", notices.usage args⟩ := by
  rw [run, refused]
  rfl

theorem run_of_accepted {options : Options} {command : Command}
    (accepted : ofArguments args = .ok (options, command)) :
    (run notices args : m Outcome) =
      command.output options >>= fun output => pure (.ofResult output) := by
  rw [run, accepted]

theorem runAlike_of_sameRequest (same : SameRequest (ofArguments args) (ofArguments args'))
    (notices : Notices) (w : World) : RunAlike notices w args args' := by
  generalize asked : ofArguments args = read at same
  generalize asked' : ofArguments args' = read' at same
  cases same with
  | refused =>
      have refused := not_isAccepted_of_error asked
      constructor
      case accepted_iff => exact iff_of_false refused (not_isAccepted_of_error asked')
      case errors => exact fun accepted => absurd accepted refused
      all_goals
        rw [run_of_refused asked, run_of_refused asked']
        rfl
  | accepted config shown shown' command =>
      have runs : (run notices args : Observed _) = run notices args' := by
        rw [run_of_accepted asked, run_of_accepted asked', output_verbose config shown shown']
      constructor
      case accepted_iff => exact iff_of_true ⟨_, _, asked⟩ ⟨_, _, asked'⟩
      all_goals
        intros
        rw [runs]

/-- Options for every command may stand on either side of its name, and the wish for log lines
changes nothing else: whatever stands behind the name, as long as it asks neither for help nor for
the version and gives nothing twice. Arguments that are refused on one side are refused on the other
one as well, in whatever words. -/
theorem global_options_on_either_side (known : name ∈ commandNames)
    (quiet : NoRequest (ofArguments (name :: rest))) (notices : Notices) (w : World) :
    (¬ GivesConfig (name :: rest) → ∀ path,
      ofArguments ("--config" :: path :: name :: rest) =
          ofArguments (name :: "--config" :: path :: rest) ∧
        RunAlike notices w ("--config" :: path :: name :: rest)
          (name :: "--config" :: path :: rest)) ∧
      (¬ GivesVerbose (name :: rest) →
        ofArguments ("--verbose" :: name :: rest) = ofArguments (name :: "--verbose" :: rest) ∧
          RunAlike notices w ("--verbose" :: name :: rest) (name :: "--verbose" :: rest) ∧
          RunAlike notices w ("--verbose" :: name :: rest) (name :: rest) ∧
          RunAlike notices w (name :: "--verbose" :: rest) (name :: rest)) := by
  constructor
  · intro free path
    have front := ofArguments_config_front known path rest
    have behind := ofArguments_config_behind known quiet free path
    have quiet' : NoRequest (ofArguments (name :: "--config" :: path :: rest)) := by
      rw [behind]
      exact (noRequest_fileOption path).bind fun o => noRequest_withFront quiet
    have same := front.trans behind.symm
    refine ⟨same, runAlike_of_sameRequest ?_ notices w⟩
    rw [same]
    exact sameRequest_refl quiet'
  · intro free
    have front := ofArguments_verbose_front known rest
    have behind := ofArguments_verbose_behind known quiet free
    have either : NoRequest (withFront ⟨none, true⟩ (ofArguments (name :: rest))) :=
      noRequest_withFront quiet
    refine ⟨front.trans behind.symm, ?_, ?_, ?_⟩ <;>
      refine runAlike_of_sameRequest ?_ notices w
    · rw [front, behind]
      exact sameRequest_refl either
    · rw [front]
      exact sameRequest_verbose quiet
    · rw [behind]
      exact sameRequest_verbose quiet

/-- Behind two dashes an option is the name of a deployment. -/
theorem global_options_on_either_side_escaped :
    let records := Tree.directory
      [("--config", .directory [("status", .file (Utf8.encode "deployed"))])]
    let w : World := ⟨⟨.directory [("etc", .directory
      [("depstat.yml", .file (Utf8.encode "store:\n  root: kv\n")),
        ("kv", .directory [("_deployments", records)])])], []⟩, .ok "/", []⟩
    let rest := ["--json", "--", "--config"]
    NoRequest (ofArguments ("status" :: rest)) ∧
      ¬ GivesConfig ("status" :: rest) ∧ ¬ GivesVerbose ("status" :: rest) ∧
      (run .silent ("--config" :: "etc/depstat.yml" :: "status" :: rest) : Observed _).result w =
        ⟨0, line (report "--config" .deployed), ""⟩ ∧
      RunAlike .silent w ("--config" :: "etc/depstat.yml" :: "status" :: rest)
        ("status" :: "--config" :: "etc/depstat.yml" :: rest) ∧
      RunAlike .silent w ("status" :: "--verbose" :: rest) ("status" :: rest) := by
  intro records w rest
  have accepted : ofArguments ("status" :: rest) =
      .ok (⟨none, false⟩, .status "--config" true) := by decide +kernel
  have quiet : NoRequest (ofArguments ("status" :: rest)) := by
    rw [accepted]
    nofun
  have unconfigured : ¬ GivesConfig ("status" :: rest) := by
    rintro ⟨options, command, accepted', given⟩
    cases accepted.symm.trans accepted'
    contradiction
  have silent : ¬ GivesVerbose ("status" :: rest) := by
    rintro ⟨options, command, accepted', given⟩
    cases accepted.symm.trans accepted'
    contradiction
  have known : "status" ∈ commandNames := by decide
  obtain ⟨config, verbose⟩ := global_options_on_either_side known quiet .silent w
  exact ⟨quiet, unconfigured, silent, by decide +kernel, (config unconfigured "etc/depstat.yml").2,
    (verbose silent).2.2.2⟩

/-- What is said where the deployment is left out. The call that is shown to be right has an option
for every command in it if that was given behind the name. -/
def missingDeployment : Notices where
  usage args :=
    "error: the following required arguments were not provided:\n  <DEPLOYMENT_ID>\n\n" ++
      "Usage: depstat status " ++
      (if "--config" ∈ args.dropWhile (· ∉ commandNames) then "--config <CONFIG> " else "") ++
      "<DEPLOYMENT_ID>\n\nFor more information, try \x27--help\x27.\n"
  help _ := ""

/-- So arguments that are refused on both sides may still be refused in different words. -/
theorem not_forall_result_eq :
    ¬ ∀ (name : String) (rest : List String), name ∈ commandNames →
      NoRequest (ofArguments (name :: rest)) → ¬ GivesConfig (name :: rest) → ∀ path w,
        (run missingDeployment ("--config" :: path :: name :: rest) : Observed _).result w =
          (run missingDeployment (name :: "--config" :: path :: rest) : Observed _).result w := by
  intro always
  have refused : ofArguments ["status"] = .error .usage := by decide +kernel
  have quiet : NoRequest (ofArguments ["status"]) := by
    rw [refused]
    rintro _ ⟨⟩
    rfl
  have unconfigured : ¬ GivesConfig ["status"] := fun ⟨options, command, accepted, _⟩ =>
    not_isAccepted_of_error refused ⟨options, command, accepted⟩
  have same := always "status" [] (by decide) quiet unconfigured "depstat.yml"
    ⟨⟨.directory [], []⟩, .ok "/", []⟩
  revert same
  decide +kernel

end Runs

end StatusLookup.CommandLine
