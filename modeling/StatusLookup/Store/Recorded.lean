import StatusLookup.Store.Basic
import StatusLookup.World

/-!
# Recorded reads

A recorded store notes each key that is read, so that a run's trace tells which reads it made.
-/

namespace StatusLookup.Store

/-- The same store, with every read noted in the trace. -/
def recorded (store : Store Observed) : Store Observed where
  get key := do
    Observed.noteRead key
    store.get key

end StatusLookup.Store
