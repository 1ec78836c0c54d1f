import StatusLookup.FileSystem.IoError
import StatusLookup.Log
import StatusLookup.Text.Utf8

/-!
# What a run may ask of its surroundings

Everything that is not computed goes through `Host`: files, environment variables, the current
directory and the log. The library is written against this interface only.
-/

namespace StatusLookup

/-- The surroundings of a run. -/
class Host (m : Type → Type) extends Logger m where
  /-- The content of a file. -/
  readFile : String → m (Except IoError Bytes)
  /-- Whether a path leads to a file or a directory. -/
  pathExists : String → m Bool
  /-- The value of an environment variable. -/
  getVariable : String → m (Option Bytes)
  /-- The absolute path of the current directory, which may have been removed. -/
  currentDirectory : m (Except IoError String)

end StatusLookup
