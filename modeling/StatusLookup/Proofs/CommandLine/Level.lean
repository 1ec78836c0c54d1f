import StatusLookup.Proofs.CommandLine.Given

/-!
# Reading at one level

At a level arguments are read one by one. An option may be waiting for its value, which is then the
next argument. Each step only adds to what has been given, so reading all of the arguments does.
-/

namespace StatusLookup.CommandLine.Level

variable (level : Level)

/-- Goes on with the arguments behind an option, whose value may be missing. -/
def goOn (args : List String) :
    Given × Bool → Except Stop (Given × Option (String × List String))
  | (g, false) => level.take g args
  | (g, true) =>
    match args with
    | [] => .error .usage
    | path :: args =>
      match Argument.ofString path with
      | .text path => g.setConfig path >>= fun g => level.take g args
      | _ => .error .usage

/-- Takes an argument that is no name of a command, and goes on with those behind it. -/
def takeArgument (args : List String) (g : Given) :
    Argument → Except Stop (Given × Option (String × List String))
  | .escape => args.foldlM level.takeText g >>= fun g => .ok (g, none)
  | .long name value => level.takeLong g name value >>= level.goOn args
  | .short letters => level.takeShort g letters >>= level.goOn args
  | .text text => level.takeText g text >>= fun g => level.take g args

theorem take_name {name : String} (known : name ∈ level.commands) (g : Given)
    (args : List String) : level.take g (name :: args) = .ok (g, some (name, args)) := by
  rw [take, if_pos known]
  rfl

theorem take_cons {arg : String} (unknown : arg ∉ level.commands) (g : Given)
    (args : List String) :
    level.take g (arg :: args) = level.takeArgument args g (Argument.ofString arg) := by
  rw [take, if_neg unknown]
  cases Argument.ofString arg
  case escape => rfl
  case text text =>
    show _ = level.takeText g text >>= fun g => level.take g args
    dsimp only
    cases level.takeText g text <;> rfl
  case' long name value =>
    show _ = level.takeLong g name value >>= level.goOn args
    dsimp only
    generalize level.takeLong g name value = taken
  case' short letters =>
    show _ = level.takeShort g letters >>= level.goOn args
    dsimp only
    generalize level.takeShort g letters = taken
  -- from here on it does not matter how the option is written
  all_goals
    rcases taken with stop | ⟨g, _ | _⟩
    · rfl
    · rfl
    · show _ = level.goOn args (g, true)
      rcases args with _ | ⟨path, args⟩
      · rfl
      · dsimp only [goOn]
        cases Argument.ofString path with
        | text path =>
            dsimp only
            cases g.setConfig path <;> rfl
        | _ => rfl

theorem onlyAdds_takeText (text : String) : OnlyAdds fun g : Given => level.takeText g text := by
  unfold takeText
  cases level.hasText with
  | false => exact onlyAdds_error .usage
  | true => exact onlyAdds_setText text

theorem onlyAdds_takeLong (name : String) (value : Option String) :
    OnlyAdds fun g : Given => level.takeLong g name value := by
  unfold takeLong
  split_ifs
  · cases value with
    | none => exact onlyAdds_pair true
    | some path => exact (onlyAdds_setConfig path).bind (onlyAdds_pair false)
  · exact onlyAdds_error .usage
  · exact onlyAdds_setVerbose.bind (onlyAdds_pair false)
  · exact onlyAdds_error .help
  · exact onlyAdds_error .version
  · exact onlyAdds_setSwitch.bind (onlyAdds_pair false)
  · exact onlyAdds_error .usage

theorem onlyAdds_takeShort (letters : List Char) :
    OnlyAdds fun g : Given => level.takeShort g letters := by
  induction letters with
  | nil => exact onlyAdds_pair false
  | cons c cs ih =>
      unfold takeShort
      split_ifs
      · split
        · exact onlyAdds_pair true
        · exact (onlyAdds_setConfig _).bind (onlyAdds_pair false)
        · exact (onlyAdds_setConfig _).bind (onlyAdds_pair false)
      · convert onlyAdds_setVerbose.bind ih with g
        cases g.setVerbose <;> rfl
      · exact onlyAdds_error .help
      · exact onlyAdds_error .version
      · exact onlyAdds_error .usage

theorem onlyAdds_foldlM_takeText (texts : List String) :
    OnlyAdds fun g : Given => texts.foldlM level.takeText g := by
  induction texts with
  | nil => exact onlyAdds_pure
  | cons text texts ih =>
      simp only [List.foldlM_cons]
      exact (level.onlyAdds_takeText text).bind ih

/-- The arguments behind an option, or those behind its value, are read on. -/
theorem onlyAdds_goOn {args : List String} (adds : OnlyAdds fun g : Given => level.take g args)
    (adds' : OnlyAdds fun g : Given => level.take g args.tail) : OnlyAdds (level.goOn args) := by
  apply onlyAdds_of_forall
  intro missing
  cases missing with
  | false => exact adds
  | true =>
      cases args with
      | nil => exact onlyAdds_error .usage
      | cons path args =>
          simp only [goOn]
          cases Argument.ofString path with
          | text path => exact (onlyAdds_setConfig path).bind adds'
          | _ => exact onlyAdds_error .usage

/-- All arguments together only add to what has been given. -/
theorem onlyAdds_take (args : List String) : OnlyAdds fun g : Given => level.take g args := by
  -- an option takes its value away with it, so the induction keeps one list more
  suffices both : (OnlyAdds fun g : Given => level.take g args) ∧
      OnlyAdds fun g : Given => level.take g args.tail from both.1
  induction args with
  | nil => exact ⟨onlyAdds_pair none, onlyAdds_pair none⟩
  | cons arg args ih =>
      obtain ⟨adds, adds'⟩ := ih
      refine ⟨?_, adds⟩
      by_cases known : arg ∈ level.commands
      · simp only [level.take_name known]
        exact onlyAdds_pair _
      · simp only [level.take_cons known]
        cases Argument.ofString arg with
        | escape => exact (level.onlyAdds_foldlM_takeText args).bind (onlyAdds_pair none)
        | long name value =>
            exact (level.onlyAdds_takeLong name value).bind (level.onlyAdds_goOn adds adds')
        | short letters =>
            exact (level.onlyAdds_takeShort letters).bind (level.onlyAdds_goOn adds adds')
        | text text => exact (level.onlyAdds_takeText text).bind adds

/-- Reading on from what has been given is reading from nothing, with the former added to it. -/
theorem take_eq_add {args : List String} (quiet : NoRequest (level.take .nothing args))
    (g : Given) : level.take g args = level.take .nothing args >>= Carries.add g := by
  have start : Carries.add g Given.nothing = .ok g := g.add_nothing
  have adds := level.onlyAdds_take args g .nothing quiet
  rwa [start] at adds

end StatusLookup.CommandLine.Level
