import StatusLookup.Store.Memory
import StatusLookup.Store.Recorded

/-!
# Memory stores that are shared

Writers and readers can share a memory store. Each read finds the store as it is then, and a
repository that was set up before a write sees what was written.
-/

namespace StatusLookup

/-- A run in a world over a memory store that it may change. -/
abbrev Shared := StateT Memory Observed

namespace Shared

instance : Logger Shared where
  log line := StateT.lift (Logger.log line)

def put (key : String) (value : Bytes) : Shared Unit :=
  modify fun records => records.put key value

/-- Removes the value at a key and gives the one that was there. -/
def remove (key : String) : Shared (Option Bytes) := do
  let records ← get
  set (records.erase key)
  return records.get? key

/-- The store for reading, with every read noted. -/
def store : Store Shared where
  get key := do StateT.lift ((← get).toStore.recorded.get key)

end Shared

end StatusLookup
