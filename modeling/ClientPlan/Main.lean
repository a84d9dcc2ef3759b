import ClientPlan.Command.Run

/-!
# The program

Reads what a command may need from the system, runs it, and writes what it leaves behind.  Of the files
only those are read whose paths the command line can lead to.  No server can be reached from here, so
documents come from files and from the standard input.
-/

set_option autoImplicit false

namespace ClientPlan.Program

/-- What the words of a command line ask for, if they ask for work. -/
def job? (words : List String) : Option Job :=
  match Invocation.ofWords words with
  | .ok (.job _ job) => some job
  | _ => none

/-- The paths that a command can lead to. -/
def paths (job : Option Job) : List Path :=
  Config.projectFile :: match job with
    | some (.list _ request) => Path.ofText request.source :: request.config.toList
    | some (.init path _) => path.toList
    | none => []

/-- Whether a command reads the standard input. -/
def readsInput : Option Job → Bool
  | some (.list _ request) => Origin.ofText request.source == .input
  | _ => false

/-- The place that a step leads to. -/
def step (place : Place) (name : String) : Place :=
  if name == ".." then place.dropLast else place ++ [name]

/-- The places on the way along names, each after the place to which it belongs. -/
def steps (place : Place) : List String → List Place
  | [] => []
  | name :: rest => step place name :: steps (step place name) rest

/-- The text of a place. -/
def placeText (place : Place) : String := "/" ++ "/".intercalate place

/-- What is at a place whose directory is there. -/
def readNode (place : Place) : IO (Option FileNode) := do
  try
    return some (.file (Text.octetsOf (← IO.FS.readBinFile (placeText place))))
  catch
    | .inappropriateType .. => return some .directory
    | _ => return none

/-- A tree with what is at a place. -/
def addPlace (tree : FileTree) (place : Place) : IO FileTree := do
  if (tree.node? place).isSome || tree.node? place.dropLast != some .directory then return tree
  match ← readNode place with
  | some n => return tree.put place n
  | none => return tree

/-- The files that a command can lead to. -/
def readFiles (directory : Path) (all : List Path) : IO FileTree :=
  (all.flatMap fun p => steps [] (directory.join p).names).foldlM addPlace {}

/-- Makes a place what a command leaves there. -/
def writeNode (place : Place) : FileNode → IO Unit
  | .directory => IO.FS.createDir (placeText place)
  | .file octets => do
    let temporary := placeText place ++ ".tmp"
    IO.FS.writeBinFile temporary (Text.byteArrayOf octets)
    IO.FS.rename temporary (placeText place)

/-- Makes the files what a command leaves behind. -/
def writeFiles (before after : FileTree) : IO Unit :=
  after.nodes.entries.forM fun (place, n) => do
    if before.node? place != some n then writeNode place n

/-- The variables that a command can ask for. -/
def readEnvironment : IO Environment := do
  let names := ["SPECGEN_BASE_MODULE", "SPECGEN_BASE_LOCATION", "SPECGEN_USE_TAGS", "XDG_DATA_HOME",
    "HOME", "NO_COLOR", "TERM", "COLUMNS"]
  let found ← names.filterMapM fun name => do
    return (← IO.getEnv name).map fun text => (name, text)
  return OrderedMap.ofList found

/-- Tables are drawn as lines below their title. -/
def drawLines : Drawing := fun headers rows title =>
  some (.concat (title.toList.map Streams.line ++ (headers :: rows).map Reporter.rowLine))

/-- The scene of a command, without any files. -/
def emptyScene (job : Option Job) : IO Scene := do
  return {
    files := {}
    directory := Path.ofText (← IO.currentDir).toString
    environment := ← readEnvironment
    input := ← if readsInput job then do (← IO.getStdin).readToEnd else pure ""
    fetch := fun _ => .unreachable "no server can be reached"
    terminal := ← (← IO.getStdout).isTty
    time := toString (← IO.monoMsNow)
    draw := drawLines }

/-- Runs a command line. -/
def runWords (words : List String) : IO UInt32 := do
  let job := job? words
  let scene ← emptyScene job
  let files ← readFiles scene.directory (scene.crashLogDirectory.toOption.toList ++ paths job)
  let outcome := run words { scene with files }
  writeFiles files outcome.files
  (← IO.getStdout).putStr outcome.streams.output
  (← IO.getStderr).putStr outcome.streams.error
  return UInt32.ofNat outcome.exitCode

end ClientPlan.Program

/-- Runs the program. -/
def main (words : List String) : IO UInt32 := ClientPlan.Program.runWords words
