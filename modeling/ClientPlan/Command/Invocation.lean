import ClientPlan.Command.Arguments
import ClientPlan.Config.Layers
import ClientPlan.Report.Reporter

/-!
# Invocations

What a command line asks for.  Options for all commands stand in front of the name of the command,
its own options behind it.  The options that ask for help or for the version come first, whatever else
is asked for.
-/

set_option autoImplicit false

namespace ClientPlan

/-- What is listed. -/
inductive View where
  | files
  | operations
  | schemas
deriving DecidableEq, Repr

/-- The names of the commands that list something. -/
def View.named : List (String × View) := [("plan", .files), ("operations", .operations),
  ("schemas", .schemas)]

/-- What a listing is made from. -/
structure Request where
  /-- Where the document comes from. -/
  source : String
  /-- The project file. -/
  config : Option Path := none
  /-- The base module. -/
  baseModule : Option String := none
  /-- Whether operations are homed without regard to tags. -/
  noTags : Bool := false
deriving DecidableEq, Repr

/-- What is asked for. -/
inductive Job where
  /-- A listing of one part of the plan. -/
  | list (view : View) (request : Request)
  /-- A project file with the defaults. -/
  | init (path : Option Path) (force : Bool)
deriving DecidableEq, Repr

/-- What a command line asks for. -/
inductive Invocation where
  | version
  | help
  | job (wishes : Wishes) (job : Job)
deriving DecidableEq, Repr

/-- The option that asks for help. -/
def helpSwitch : Switch := { long := "--help" }

/-- The options for all commands. -/
def generalSwitches : List Switch := [
  { long := "--version" }, { long := "--json" }, { long := "--plain" }, { long := "--no-color" },
  { long := "--quiet", short := some 'q' }, { long := "--verbose", short := some 'v' }, helpSwitch]

/-- The options of a listing. -/
def listingSwitches : List Switch := [
  { long := "--config", short := some 'c', takesValue := true },
  { long := "--base-module", short := some 'm', takesValue := true },
  { long := "--no-tags" }, helpSwitch]

/-- The options for making a project file. -/
def initSwitches : List Switch := [
  { long := "--path", short := some 'p', takesValue := true },
  { long := "--force", short := some 'f' }, helpSwitch]

namespace Invocation

/-- What is asked of the reporter. -/
def wishes (a : Arguments) : Wishes where
  format := if a.has "--json" then some .json else if a.has "--plain" then some .plain else none
  colorless := a.has "--no-color"
  quiet := a.has "--quiet"
  verbose := a.has "--verbose"

/-- What is asked for by the options for help and version, the first of them winning. -/
def eager? (a : Arguments) : Option Invocation :=
  a.options.findSome? fun (name, _) =>
    if name == "--version" then some .version else if name == "--help" then some .help else none

/-- The job of a listing. -/
def listing (view : View) (a : Arguments) : Except UsageError Job :=
  match a.words with
  | [] => .error (.missingArgument "SPEC")
  | [source] => .ok (.list view {
      source
      config := (a.value? "--config").map Path.ofText
      baseModule := a.value? "--base-module"
      noTags := a.has "--no-tags" })
  | _ :: extra :: _ => .error (.extraArgument extra)

/-- The job of making a project file. -/
def initialising (a : Arguments) : Except UsageError Job :=
  match a.words with
  | [] => .ok (.init ((a.value? "--path").map Path.ofText) (a.has "--force"))
  | extra :: _ => .error (.extraArgument extra)

/-- The job of a command, given the words behind its name. -/
def ofCommand (w : Wishes) (switches : List Switch) (job : Arguments → Except UsageError Job)
    (rest : List String) : Except UsageError Invocation := do
  let a ← Arguments.read switches true rest
  match eager? a with
  | some i => return i
  | none => return .job w (← job a)

/-- What the words of a command line ask for. -/
def ofWords (words : List String) : Except UsageError Invocation := do
  let a ← Arguments.read generalSwitches false words
  match eager? a, a.words with
  | some i, _ => return i
  | none, [] => throw .missingCommand
  | none, name :: rest =>
    match View.named.lookup name with
    | some view => ofCommand (wishes a) listingSwitches (listing view) rest
    | none =>
      if name == "init" then ofCommand (wishes a) initSwitches initialising rest
      else throw (.unknownCommand name)

end Invocation

end ClientPlan
