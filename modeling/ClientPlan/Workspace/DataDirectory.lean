import ClientPlan.Text.Blank
import ClientPlan.Workspace.Surroundings

/-!
# The data directory

Crash logs are kept in a directory of the user, which is made if it is missing.  Where it is depends
on the platform.
-/

set_option autoImplicit false

namespace ClientPlan

/-- Whether a platform keeps the data of its users below a directory of its own. -/
def hasSharedData (platform : String) : Bool := platform == "Linux" || platform.endsWith "BSD"

namespace Surroundings

/-- The home directory.  What only names the home of a user leads nowhere. -/
def home (s : Surroundings) : Except FileError Path :=
  let text := Text.dropEnd (· == '/') ((s.environment.get? "HOME").getD "").toList
  if text.head? == some '~' then .error .noHome
  else .ok (.ofText (if text.isEmpty then "/" else String.ofList text))

/-- Where the data directory is. -/
def dataDirectory (s : Surroundings) (platform : String) : Except FileError Path := do
  if hasSharedData platform then
    let base ← match s.envValue? "XDG_DATA_HOME" with
      | some text => pure (Path.ofText text)
      | none => return (← s.home).join ⟨"", [".local", "share", "specgen"]⟩
    return base.join ⟨"", ["specgen"]⟩
  else return (← s.home).join ⟨"", [".specgen"]⟩

/-- Makes the data directory, if it is missing, and says where it is. -/
def makeDataDirectory (s : Surroundings) (platform : String) : FileAction Path := do
  let path ← (s.dataDirectory platform : Except FileError Path)
  FileAction.makeDirectories s.device s.directory path
  return path

end Surroundings

end ClientPlan
