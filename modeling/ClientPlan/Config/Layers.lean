import ClientPlan.Config.Fields
import ClientPlan.Json.Reader
import ClientPlan.Json.Writer
import ClientPlan.Text.Lower
import ClientPlan.Workspace.Surroundings

/-!
# Layers of configuration

A configuration is put together from layers: the defaults, the project file, the variables of the
environment, and what the command line says.  A field has its value from the last layer that gives it
one.  The project file is valid by itself or there is no configuration at all.

`Config.save` writes a project file, which holds only what differs from the defaults.
-/

set_option autoImplicit false

namespace ClientPlan

/-- Fields with their values. -/
abbrev Fields := List (String × Value)

namespace Config

/-! ## The project file -/

/-- Where the project file is if nothing else is said, seen from the working directory. -/
def projectFile : Path := ⟨"", ["specgen.json"]⟩

/-- The path of the project file. -/
def projectPath (s : Surroundings) (path : Option Path) : Path :=
  path.getD (s.directory.join projectFile)

/-- The value that the text of a project file is. -/
def projectValue (stack : Stack) (path : Path) (text : String) : Except Failure Value :=
  match Json.read stack.nesting text with
  | .ok v => .ok v
  | .error f =>
    match f.escaping? with
    | some m => .error (.malformed m)
    | none => .error (.config (.unreadableFile path.text))

/-- The fields in a project file: those of its section, if it has one, or all. -/
def projectEntries (stack : Stack) (path : Path) (octets : List Nat) : Except Failure Entries := do
  match ← projectValue stack path (← fileText octets) with
  | .map entries =>
    match lookupText "generator" entries with
    | none => return entries
    | some (.map own) => return own
    | some _ => throw (.config (.sectionNotAnObject path.text))
  | _ => throw (.config (.notAnObject path.text))

/-- The configuration of checked fields. -/
def ofChecked (source : Option Path) (entries : Entries) : Except Failure Config :=
  (ofEntries entries).mapError fun issues =>
    .config (.invalidOptions (source.map Path.text) issues)

/-- The configuration in the project file.  Only a file that was asked for has to be there. -/
def ofProject (s : Surroundings) (path : Option Path) : Except Failure Config :=
  let p := projectPath s path
  match s.files.readFile s.directory p with
  | .error e => .error (.file e)
  | .ok (some octets) => do ofChecked (some p) (← projectEntries s.stack p octets)
  | .ok none => if path.isSome then .error (.config (.fileNotFound p.text)) else .ok default

/-! ## The environment -/

/-- The words for true in the environment. -/
def environmentTrue : List String := ["1", "true", "yes", "on"]

/-- The words for false in the environment. -/
def environmentFalse : List String := ["0", "false", "no", "off"]

/-- The field that a variable stands for as a text. -/
def variableField (s : Surroundings) (name field : String) : Fields :=
  ((s.envValue? name).map fun text => (field, Value.str text)).toList

/-- The field that the variable for tags stands for. -/
def tagsField (s : Surroundings) : Except Failure Fields :=
  let word := Text.lowercase (Text.trim ((s.environment.get? "SPECGEN_USE_TAGS").getD ""))
  if environmentTrue.contains word then .ok [("operation_use_tags", .bool true)]
  else if environmentFalse.contains word then .ok [("operation_use_tags", .bool false)]
  else if word == "" then .ok []
  else .error (.config (.notBoolean word))

/-- The fields that the environment gives. -/
def environmentFields (s : Surroundings) : Except Failure Fields := do
  return variableField s "SPECGEN_BASE_MODULE" "base_module" ++
    variableField s "SPECGEN_BASE_LOCATION" "base_location" ++ (← tagsField s)

/-! ## All layers -/

/-- The entries with the values of a layer. -/
def overlay (entries : Entries) (layer : Fields) : Entries :=
  layer.foldl (fun entries (name, v) => setEntry (.str name) v entries) entries

/-- The fields of a layer that have a value. -/
def given (layer : Fields) : Fields :=
  layer.filter fun (_, v) => match v with
    | .null => false
    | _ => true

/-- The configuration of all layers. -/
def resolve (s : Surroundings) (path : Option Path) (overrides : Fields) :
    Except Failure Config := do
  let project ← ofProject s path
  let fromEnvironment ← environmentFields s
  let start : Entries := project.fields.map fun (name, v) => (.str name, v)
  ofChecked path (overlay (overlay start fromEnvironment) (given overrides))

/-! ## Saving -/

/-- The text of the project file of a configuration. -/
def projectText (c : Config) : String :=
  Json.write .ascii (Value.ofFields c.changedFields) ++ "\n"

/-- Writes a configuration to a project file. -/
def save (c : Config) (device : Device) (directory path : Path) : FileAction Unit :=
  FileAction.replaceFile device directory path (Text.encode c.projectText)

end Config

end ClientPlan
