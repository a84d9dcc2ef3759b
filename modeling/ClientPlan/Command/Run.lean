import ClientPlan.Api.Reader
import ClientPlan.Api.Version
import ClientPlan.Command.Invocation
import ClientPlan.Load.Document
import ClientPlan.Plan.PolicyName
import ClientPlan.Plan.State
import ClientPlan.Workspace.DataDirectory

/-!
# Running commands

A command reads a document and a configuration, makes the plan and lists a part of it; or it writes a
project file.  `run` gives the exit code, what is written to the two streams, and the files as they
are afterwards.  A failure that is expected is reported by its message and exits with the code of its
category; any other failure leaves a crash log.
-/

set_option autoImplicit false

namespace ClientPlan

/-- What a command leaves behind. -/
structure Outcome where
  /-- The exit code. -/
  exitCode : Nat
  /-- What is written. -/
  streams : Streams
  /-- The files afterwards. -/
  files : FileTree

/-- Where and when a command runs. -/
structure Scene extends Surroundings where
  /-- Whether the standard output is a terminal. -/
  terminal : Bool := false
  /-- The name of the platform. -/
  platform : String := "Linux"
  /-- The time, as it stands in the name of a crash log. -/
  time : String := ""
  /-- What a configuration can name as its policy. -/
  importer : Importer := Policy.own
  /-- How tables are drawn on a terminal. -/
  draw : Drawing

/-! ## Plans -/

namespace Request

/-- The fields that the command line gives. -/
def overrides (r : Request) : Fields :=
  ("base_module", Config.optionalValue r.baseModule) ::
    if r.noTags then [("operation_use_tags", .bool false)] else []

/-- The policy that a configuration asks for. -/
def policy (importer : Importer) (c : Config) : Except Failure Policy :=
  match c.policy with
  | none => .ok .standard
  | some name => if name == "" then .ok .standard else Policy.ofName importer name

/-- What a plan is made from. -/
def setting (r : Request) (s : Scene) : Except Failure Setting := do
  let config ← Config.resolve s.toSurroundings r.config r.overrides
  let policy ← policy s.importer config
  let document ← s.load r.source
  let version ← formatVersion document
  return ⟨← readApi document version, config, policy, .structural⟩

/-- The plan that is asked for. -/
def plan (r : Request) (s : Scene) : Logged PlanState := do
  let setting ← Logged.ofExcept (r.setting s)
  setting.start.run

end Request

/-! ## Listings -/

/-- A table with its title. -/
structure Listing where
  /-- The headers. -/
  headers : List String
  /-- The rows. -/
  rows : List (List String)
  /-- The title. -/
  title : String
  /-- What is said in place of a table without rows. -/
  ifEmpty : Option String := none
deriving DecidableEq, Repr

/-- The row of an operation. -/
def Operation.row (baseModule : String) (op : Operation) : List String :=
  let names (params : List Param) := orDash (", ".intercalate (params.map Param.name))
  [(op.home.qualify baseModule).dotted, op.function, op.method.shown, op.path,
    names op.pathParams, names op.queryParams]

/-- The row of a schema. -/
def Schema.row (s : Schema) : List String :=
  let field (f : SchemaField) := f.name ++ ": " ++ f.type.text
  [s.finalName, ", ".intercalate s.identities, orDash (", ".intercalate (s.fields.map field))]

/-- A title with the number of rows. -/
def countedTitle (title : String) (rows : List (List String)) : String :=
  title ++ " (" ++ toString rows.length ++ ")"

namespace PlanState

/-- The listing of a part of a plan. -/
def listing (p : PlanState) : View → Listing
  | .files =>
    { headers := ["Module", "File", "Operations", "Schemas", "Using", "Behaviour"]
      rows := p.rows
      title := countedTitle (p.api.info.title ++ " -- Files") p.rows }
  | .operations =>
    let rows := p.operations.map (Operation.row p.config.baseModule)
    { headers := ["Module", "Function", "Method", "Path", "Path Params", "Query Params"]
      rows
      title := countedTitle "Operations" rows
      ifEmpty := some "No operations found." }
  | .schemas =>
    let rows := p.schemas.values.map Schema.row
    { headers := ["Schema", "Identities", "Fields"]
      rows
      title := countedTitle "Schemas" rows
      ifEmpty := some "No schemas referenced by any operation." }

end PlanState

/-- A listing as a report, unless its table cannot be drawn. -/
def Listing.report (l : Listing) (r : Reporter) (draw : Drawing) : Option Streams :=
  match l.ifEmpty with
  | some message => if l.rows.isEmpty then some (r.info message) else table
  | none => table
where
  /-- The table. -/
  table : Option Streams := r.table draw l.headers l.rows (some l.title)

/-! ## Commands -/

namespace Scene

/-- Where crash logs are kept. -/
def crashLogDirectory (s : Scene) : Except FileError Path := do
  return (← s.dataDirectory s.platform).join ⟨"", ["logs"]⟩

/-- Writes a crash log and says where it is. -/
def writeCrashLog (s : Scene) : FileAction Path := do
  let logs ← (s.crashLogDirectory : Except FileError Path)
  FileAction.makeDirectories s.device s.directory logs
  let log := logs.join ⟨"", ["crash-" ++ s.time ++ ".log"]⟩
  match (← get).locate s.directory log with
  | .ok l => modify fun t => t.put l (.file (Text.encode "Unexpected error.\n"))
  | .error e => throw e
  return log

/-- The end of a command that failed without being expected to. -/
def crash (s : Scene) (r : Reporter) (written : Streams) (files : FileTree) : Outcome :=
  let (log, files) := (s.writeCrashLog.run).run files
  let report := match log with
    | .ok path => r.error ("Unexpected error. Debug log: " ++ path.text)
    | .error _ => .note "Unexpected error."
  ⟨Category.general.exitCode, written ++ report, files⟩

/-- The end of a command that cannot report anything. -/
def crashSilently (s : Scene) : Outcome :=
  ⟨Category.general.exitCode, {}, ((s.writeCrashLog.run).run s.files).2⟩

/-- Lists a part of a plan. -/
def list (s : Scene) (r : Reporter) (view : View) (request : Request) : Outcome :=
  let planned := request.plan s
  let warnings := Streams.concat (planned.warnings.map r.logWarning)
  match planned.outcome with
  | .ok p =>
    match (p.listing view).report r s.draw with
    | some report => ⟨0, warnings ++ report, s.files⟩
    | none => s.crash r warnings s.files
  | .error e =>
    match e.message? with
    | some message => ⟨e.exitCode, warnings ++ r.error message, s.files⟩
    | none => s.crash r warnings s.files

/-- Writes a project file with the defaults. -/
def init (s : Scene) (r : Reporter) (path : Option Path) (force : Bool) : Outcome :=
  let target := Config.projectPath s.toSurroundings path
  match s.files.look s.directory target with
  | .error _ => s.crash r {} s.files
  | .ok found =>
    if found.isSome && !force then
      ⟨Category.usage.exitCode,
        r.error (target.text ++ " already exists (use --force to overwrite)"), s.files⟩
    else
      match (((default : Config).save s.device s.directory target).run).run s.files with
      | (.ok (), files) => ⟨0, r.success ("Wrote " ++ target.text), files⟩
      | (.error _, files) => s.crash r {} files

end Scene

/-! ## The command line -/

/-- The version of the program. -/
def versionText : String := "specgen 0.1.0"

/-- What the program can do. -/
def helpText : String := "\n".intercalate [
  "Usage: specgen [OPTIONS] COMMAND [ARGS]...", "",
  "Plan API client modules from OpenAPI 3.0/3.1 documents.", "",
  "Options: --version --json --plain --no-color -q/--quiet -v/--verbose --help", "",
  "Commands:",
  "  plan        Show the file units the pipeline would generate.",
  "  operations  List every Operation record, one row per homing module.",
  "  schemas     List every deduplicated schema with its identities and fields.",
  "  init        Write a default specgen.json."]

/-- Runs the command that the words of a command line ask for. -/
def run (words : List String) (s : Scene) : Outcome :=
  if words.isEmpty then ⟨Category.usage.exitCode, .line helpText, s.files⟩
  else
    match Invocation.ofWords words with
    | .error e => ⟨Category.usage.exitCode, .note ("Error: " ++ e.message), s.files⟩
    | .ok .version => ⟨0, .line versionText, s.files⟩
    | .ok .help => ⟨0, .line helpText, s.files⟩
    | .ok (.job wishes job) =>
      match Reporter.ofWishes s.toSurroundings s.terminal wishes, job with
      | .error _, _ => s.crashSilently
      | .ok r, .list view request => s.list r view request
      | .ok r, .init path force => s.init r path force

end ClientPlan
