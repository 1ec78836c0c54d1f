import StatusLookup.World

/-!
# Runs of a part after another

A run in a world is read part by part: what comes next starts from the trace that the first part
leaves. This is the only law of runs that proofs about longer runs need, once the run of each part
is known.

Where only results matter, the traces between the parts need not be known. It is enough that every
part yields its result whatever has been done before, and then the parts can just as well be run one
by one.
-/

namespace StatusLookup.Observed

variable {α β : Type} {first run : Observed α} {next : α → Observed β} {w : World}
  {t after : Trace} {a : α} {b : β}

/-- What comes next starts where the first part ends. -/
theorem run_bind_of_run (run : (first.run w).run t = (a, after)) :
    ((first >>= next).run w).run t = ((next a).run w).run after := by
  rw [ReaderT.run_bind, StateT.run_bind]
  exact congrArg (fun done : α × Trace => ((next done.1).run w).run done.2) run

theorem observe_eq_run (run : Observed α) (w : World) :
    run.observe w = (run.run w).run Trace.empty := rfl

theorem readFile_run (path : String) (w : World) (t : Trace) :
    ((Host.readFile path : Observed _).run w).run t =
      (w.directory.readFile path, t.addAccess (.content path)) := rfl

theorem pathExists_run (path : String) (w : World) (t : Trace) :
    ((Host.pathExists path : Observed _).run w).run t =
      (w.directory.pathExists path, t.addAccess (.existence path)) := rfl

theorem getVariable_run (name : String) (w : World) (t : Trace) :
    ((Host.getVariable name : Observed _).run w).run t = (w.valueOf? name, t) := rfl

/-- The run has this result in the world, whatever has been done before. -/
def Yields (run : Observed α) (w : World) (a : α) : Prop :=
  ∀ t, ∃ after, (run.run w).run t = (a, after)

theorem yields_pure (w : World) (a : α) : (pure a : Observed α).Yields w a :=
  fun t => ⟨t, rfl⟩

theorem Yields.result_eq (yields : run.Yields w a) : run.result w = a := by
  obtain ⟨after, run⟩ := yields Trace.empty
  exact congrArg Prod.fst run

/-- A result that does not depend on what has been done before is that of the run alone. -/
theorem Yields.result (yields : run.Yields w a) : run.Yields w (run.result w) := by
  rwa [yields.result_eq]

theorem Yields.bind (yields : first.Yields w a) (yields' : (next a).Yields w b) :
    (first >>= next).Yields w b := by
  intro t
  obtain ⟨middle, run⟩ := yields t
  obtain ⟨after, run'⟩ := yields' middle
  exact ⟨after, (run_bind_of_run run).trans run'⟩

end StatusLookup.Observed
