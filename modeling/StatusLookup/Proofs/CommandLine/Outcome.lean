import StatusLookup.CommandLine.Run
import StatusLookup.Proofs.Config.Load
import StatusLookup.Proofs.Config.Prefix
import StatusLookup.Proofs.Json.Written
import StatusLookup.Proofs.Lookup.Run

/-!
# What a command line leaves behind

The commands are compared with the library: a configuration is loaded, its repository is set up, and
a status is looked up in it, each by a call of its own. The first failure among the three is the
answer. A command line prints that answer or its message, and which of the two can be told from the
exit code.

Whether there is a status is answered from the same calls. One failure among all is an answer here,
namely that there is no such deployment. Every other one stays the failure that it is when the
status is asked for.
-/

namespace StatusLookup

namespace Library

variable (w : World) (path : Option String) (deployment : String)

/-- The configuration in the given file, or the one of the current directory. -/
def config : Except Failure Config :=
  match path with
  | some path => (Config.load path : Observed _).result w
  | none => do
    let directory ← w.directoryPath.mapError .io
    (Config.discover directory : Observed _).result w

def repository : Except Failure (Repository Observed) := do
  let config ← config w path
  (config.repository : Observed _).result w

def status : Except Failure Status := do
  let repository ← repository w path
  ((repository.status deployment).result w).mapError .lookup

theorem config_some (path : String) :
    config w (some path) = Config.ofContent path (w.directory.readFile path) :=
  (Config.load_yields path w).result_eq

theorem config_none : config w none =
    w.directoryPath.mapError Failure.io >>= fun directory => Config.ofDirectory directory w :=
  congrArg (w.directoryPath.mapError Failure.io >>= ·)
    (funext fun directory => (Config.discover_yields directory w).result_eq)

/-- No lookup fails while the records are being set up. -/
theorem config_ne_lookup (e : LookupError) : config w path ≠ .error (.lookup e) := by
  cases path with
  | some path =>
      rw [config_some]
      exact Config.ofContent_ne_lookup path _ e
  | none =>
      rw [config_none]
      cases w.directoryPath with
      | error e => nofun
      | ok directory => exact Config.ofDirectory_ne_lookup directory w e

theorem repository_ne_lookup (e : LookupError) : repository w path ≠ .error (.lookup e) := by
  rw [repository]
  cases loaded : config w path with
  | error e' =>
      rintro ⟨⟩
      exact config_ne_lookup w path e loaded
  | ok config =>
      obtain ⟨outcome, resolves⟩ := Config.exists_resolves w config
      show (config.repository : Observed _).result w ≠ _
      rw [resolves.repository_yields.result_eq]
      cases resolves <;> nofun

variable {w path}

/-- A lookup in the records of a configuration answers the same whatever has been done before. -/
theorem status_yields {records : Repository Observed} (opened : repository w path = .ok records) :
    (records.status deployment).Yields w ((records.status deployment).result w) := by
  obtain ⟨config, loaded, set⟩ := bind_eq_ok_iff.mp opened
  obtain ⟨outcome, resolves⟩ := Config.exists_resolves w config
  rw [resolves.repository_yields.result_eq] at set
  cases outcome with
  | error e => contradiction
  | ok p =>
      obtain rfl : config.recordsUnder p = records := Except.ok.inj set
      exact (Repository.status_yields _ (FileStore.get_yields _ w _)).result

end Library

namespace CommandLine

section Runs

variable (options : Options) (w : World)

theorem loadConfig_yields :
    (loadConfig options : Observed _).Yields w (Library.config w options.config) := by
  rw [loadConfig]
  cases options.config with
  | some path =>
      rw [Library.config_some]
      exact Config.load_yields path w
  | none =>
      rw [Library.config_none]
      have asked : (Host.currentDirectory : Observed _).Yields w w.directoryPath :=
        fun t => ⟨t, rfl⟩
      refine asked.bind ?_
      cases w.directoryPath with
      | error e => exact Observed.yields_pure w _
      | ok directory => exact Config.discover_yields directory w

theorem openRepository_yields :
    (openRepository options : Observed _).Yields w (Library.repository w options.config) := by
  refine (loadConfig_yields options w).bind ?_
  rw [Library.repository]
  cases Library.config w options.config with
  | error e => exact Observed.yields_pure w _
  | ok config =>
      obtain ⟨outcome, resolves⟩ := Config.exists_resolves w config
      exact resolves.repository_yields.result

theorem output_status_yields (deployment : String) (json : Bool) :
    ((Command.status deployment json).output options : Observed _).Yields w
      ((Library.status w options.config deployment).map fun s =>
        line (if json then report deployment s else s.name)) := by
  refine (openRepository_yields options w).bind ?_
  rw [Library.status]
  cases opened : Library.repository w options.config with
  | error e => exact Observed.yields_pure w _
  | ok records =>
      refine (Library.status_yields deployment opened).bind ?_
      show Observed.Yields _ w
        ((((records.status deployment).result w).mapError Failure.lookup).map _)
      cases (records.status deployment).result w with
      | error e => exact Observed.yields_pure w _
      | ok s => exact Observed.yields_pure w _

/-- What is printed about the presence of a status. -/
def presenceText : Except Failure Status → Except Failure String
  | .ok _ => .ok (line "true")
  | .error (.lookup (.notFound _)) => .ok (line "false")
  | .error e => .error e

theorem output_hasStatus_yields (deployment : String) :
    ((Command.hasStatus deployment).output options : Observed _).Yields w
      (presenceText (Library.status w options.config deployment)) := by
  refine (openRepository_yields options w).bind ?_
  rw [Library.status]
  cases opened : Library.repository w options.config with
  | error e =>
      cases e with
      | lookup e => exact absurd opened (Library.repository_ne_lookup w options.config e)
      | _ => exact Observed.yields_pure w _
  | ok records =>
      refine (Repository.hasStatus_yields _ (Library.status_yields deployment opened)).bind ?_
      show Observed.Yields _ w
        (presenceText (((records.status deployment).result w).mapError Failure.lookup))
      cases (records.status deployment).result w with
      | error e => cases e <;> exact Observed.yields_pure w _
      | ok s => exact Observed.yields_pure w _

theorem output_parse_yields (text : String) (strict : Bool) :
    ((Command.parse text strict).output options : Observed _).Yields w
      (((Status.parse text !strict).mapError Failure.invalidStatus).map fun s => line s.name) := by
  rw [Command.output]
  cases Status.parse text !strict with
  | error e => exact Observed.yields_pure w _
  | ok s => exact Observed.yields_pure w _

/-- A command line that is accepted leaves behind what its command comes to. -/
theorem run_yields (notices : Notices) {args : List String} {options : Options} {command : Command}
    {output : Except Failure String} (accepted : ofArguments args = .ok (options, command))
    {w : World} (yields : (command.output options : Observed _).Yields w output) :
    (run notices args : Observed _).Yields w (.ofResult output) := by
  rw [run, accepted]
  exact yields.bind (Observed.yields_pure w _)

end Runs

section Contract

variable {text : Status → String} {answer : Except Failure Status} {outcome : Outcome}

/-- A status is shown, or the message of the failure to find one. -/
structure Shows (text : Status → String) (answer : Except Failure Status) (outcome : Outcome) :
    Prop where
  ok_iff : ∀ s, outcome = ⟨0, line (text s), ""⟩ ↔ answer = .ok s
  failure : ∀ e, answer = .error e → outcome = ⟨1, "", "Error: " ++ e.message ++ "\n"⟩

/-- It is told whether there is a status. Only a deployment that is not found has none. -/
structure TellsPresence (answer : Except Failure Status) (outcome : Outcome) : Prop where
  true_iff : outcome = ⟨0, line "true", ""⟩ ↔ ∃ s, answer = .ok s
  false_iff : outcome = ⟨0, line "false", ""⟩ ↔ ∃ id, answer = .error (.lookup (.notFound id))
  failure : ∀ e, answer = .error e → (∀ id, e ≠ .lookup (.notFound id)) →
    outcome = ⟨1, "", "Error: " ++ e.message ++ "\n"⟩

theorem line_injective {a b : String} (same : line a = line b) : a = b :=
  (String.append_left_inj "\n").mp same

def reported (deployment : String) (s : Status) : List (String × String) :=
  [("deployment_id", deployment), ("status", s.name)]

theorem toList_report (deployment : String) (s : Status) :
    (report deployment s).toList = Json.writeObject (reported deployment s) := by
  have opening : "\x7b\"deployment_id\":".toList =
      '{' :: ((Json.writeString "deployment_id").toList ++ [':']) := by decide +kernel
  have middle : ",\"status\":".toList =
      ',' :: ((Json.writeString "status").toList ++ [':']) := by decide +kernel
  have closing : "\x7d".toList = ['}'] := rfl
  unfold report
  simp only [String.toList_append, opening, middle, closing, reported, Json.writeObject,
    Json.writeMembers, Json.writeMember, Json.separator, List.append_assoc, List.cons_append,
    List.nil_append, if_true, Bool.false_eq_true, if_false]

theorem report_injective {deployment deployment' : String} {s s' : Status}
    (same : report deployment s = report deployment' s') : deployment = deployment' ∧ s = s' := by
  have written := congrArg String.toList same
  rw [toList_report, toList_report] at written
  have members := Json.writeObject_injective written
  simp only [reported, List.cons.injEq, Prod.mk.injEq, true_and, and_true] at members
  exact ⟨members.1, Status.name_injective members.2⟩

/-- Texts that tell statuses apart show them. -/
theorem shows_ofResult (injective : ∀ s s', text s = text s' → s = s')
    (answer : Except Failure Status) :
    Shows text answer (.ofResult (answer.map fun s => line (text s))) := by
  constructor
  case ok_iff =>
    intro s
    cases answer with
    | error e => simp [Except.map, Outcome.ofResult]
    | ok s' =>
        simp only [Except.map, Outcome.ofResult, Outcome.mk.injEq, true_and, and_true,
          Except.ok.injEq]
        constructor
        · intro same
          exact injective s' s (line_injective same)
        · rintro rfl
          rfl
  case failure =>
    rintro e rfl
    rfl

theorem tellsPresence_ofResult (answer : Except Failure Status) :
    TellsPresence answer (.ofResult (presenceText answer)) := by
  cases answer with
  | ok s => constructor <;> simp [presenceText, Outcome.ofResult, line]
  | error e =>
      cases e with
      | lookup e => cases e <;> constructor <;> simp [presenceText, Outcome.ofResult, line]
      | _ => constructor <;> simp [presenceText, Outcome.ofResult]

theorem shows_status (deployment : String) (json : Bool) (answer : Except Failure Status) :
    Shows (fun s => if json then report deployment s else s.name) answer
      (.ofResult (answer.map fun s => line (if json then report deployment s else s.name))) := by
  refine shows_ofResult (fun s s' same => ?_) answer
  cases json with
  | false => exact Status.name_injective same
  | true => exact (report_injective same).2

/-- A command does what the library does. A question after the presence of a status that fails does
what the question after the status does. -/
def Command.IsAnswered (notices : Notices) (w : World) (options : Options) (outcome : Outcome) :
    Command → Prop
  | .status deployment json =>
    Shows (fun s => if json then report deployment s else s.name)
      (Library.status w options.config deployment) outcome
  | .hasStatus deployment =>
    TellsPresence (Library.status w options.config deployment) outcome ∧
      (outcome.exitCode = 1 → ∀ args options' json,
        ofArguments args = .ok (options', .status deployment json) →
          options'.config = options.config → (run notices args : Observed _).result w = outcome)
  | .parse text strict =>
    Shows Status.name ((Status.parse text !strict).mapError .invalidStatus) outcome
  | .statuses =>
    outcome = ⟨0, "INITIAL\nDEPLOYMENT_IN_PROGRESS\nDEPLOYED\nUNDEPLOYMENT_IN_PROGRESS\n" ++
      "UNDEPLOYED\nDEPLOYMENT_FAILED\nUNDEPLOYMENT_FAILED\n", ""⟩

/-- Where the presence of a status is not told, it fails as the status does. -/
theorem eq_of_tellsPresence_of_shows {outcome' : Outcome} (tells : TellsPresence answer outcome)
    (shows' : Shows text answer outcome') (fails : outcome.exitCode = 1) : outcome' = outcome := by
  cases answer with
  | ok s =>
      rw [tells.true_iff.mpr ⟨s, rfl⟩] at fails
      contradiction
  | error e =>
      by_cases absent : ∃ id, e = .lookup (.notFound id)
      · obtain ⟨id, rfl⟩ := absent
        rw [tells.false_iff.mpr ⟨id, rfl⟩] at fails
        contradiction
      · rw [tells.failure e rfl (not_exists.mp absent), shows'.failure e rfl]

/-- The command line agrees with the library, and its commands agree with each other: whatever
arguments are accepted, what the run leaves behind is what the calls of the library come to. -/
theorem run_agrees_with_library (notices : Notices) {args : List String} {options : Options}
    {command : Command} (accepted : ofArguments args = .ok (options, command)) (w : World) :
    command.IsAnswered notices w options ((run notices args : Observed _).result w) := by
  cases command with
  | status deployment json =>
      rw [(run_yields notices accepted (output_status_yields options w deployment json)).result_eq]
      exact shows_status deployment json _
  | hasStatus deployment =>
      rw [(run_yields notices accepted (output_hasStatus_yields options w deployment)).result_eq]
      refine ⟨tellsPresence_ofResult _, fun fails args options' json accepted' same => ?_⟩
      have yields := output_status_yields options' w deployment json
      rw [(run_yields notices accepted' yields).result_eq, same]
      exact eq_of_tellsPresence_of_shows (tellsPresence_ofResult _) (shows_status deployment json _)
        fails
  | parse text strict =>
      rw [(run_yields notices accepted (output_parse_yields options w text strict)).result_eq]
      exact shows_ofResult (fun _ _ => Status.name_injective) _
  | statuses =>
      have listed : (Command.statuses.output options : Observed _).Yields w
          (.ok (String.join (Status.all.map fun s => line s.name))) := Observed.yields_pure w _
      rw [(run_yields notices accepted listed).result_eq]
      rfl

/-- A record beside a configuration, looked up from the directory of both. -/
theorem run_agrees_with_library_web :
    let records := Tree.directory [("web", .directory [("status", .file (Utf8.encode "deployed"))])]
    let w : World := ⟨⟨.directory [("depstat.yml", .file (Utf8.encode "store:\n  root: kv\n")),
      ("kv", .directory [("_deployments", records)])], []⟩, .ok "/", []⟩
    let args := ["status", "web", "-vc", "./depstat.yml"]
    ofArguments args = .ok (⟨some "./depstat.yml", true⟩, .status "web" false) ∧
      (run .silent args : Observed _).result w = ⟨0, "DEPLOYED\n", ""⟩ ∧
      (Command.status "web" false).IsAnswered .silent w ⟨some "./depstat.yml", true⟩
        ((run .silent args : Observed _).result w) := by
  have accepted : ofArguments ["status", "web", "-vc", "./depstat.yml"] =
      .ok (⟨some "./depstat.yml", true⟩, .status "web" false) := by decide +kernel
  exact ⟨accepted, by decide +kernel, run_agrees_with_library .silent accepted _⟩

/-- Without a configuration nothing is said about deployments. -/
example : (run .silent ["exists", "web"] : Observed _).result
      ⟨⟨.directory [], []⟩, .ok "/srv", []⟩ =
    ⟨1, "", "Error: configuration file not found in /srv\n"⟩ := by decide +kernel

end Contract

end CommandLine

end StatusLookup
