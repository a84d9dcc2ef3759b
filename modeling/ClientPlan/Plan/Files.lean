import ClientPlan.Plan.Setting

/-!
# Files

Every planned file belongs to one module.  Schema files, operation files and interface files are
planned by themselves and then reconciled: a schema file and an operation file of one module become
one file, and an interface file must not meet another file.
-/

set_option autoImplicit false

namespace ClientPlan

/-! ## Paths -/

/-- A path followed by a part: an absolute part discards the path before it. -/
def joinPart (path part : String) : String :=
  if part.startsWith "/" then part
  else if path == "" || path.endsWith "/" then path ++ part
  else path ++ "/" ++ part

/-- The path that directories and a file name make up; empty directories do not count. -/
def joinPath (directories : List String) (name : String) : String :=
  match directories.filter (· != "") ++ [name] with
  | [] => ""
  | first :: rest => rest.foldl joinPart first

/-- The path of the file of a module in some directories. -/
def fileName (directories : List String) (m : ModuleName) : String := joinPath directories m.stem

/-- What the name of an interface file ends in. -/
def interfaceEnding : String := ".interface"

/-! ## Collecting -/

/-- The files with `unit` at its module, or with the file there changed by `more`. -/
def FileMap.extend (files : FileMap) (unit : FileUnit) (more : FileUnit → FileUnit) : FileMap :=
  files.insert unit.target (((files.get? unit.target).map more).getD unit)

/-- A setting that may be missing or empty, as a list. -/
def givenList (s : Option String) : List String := s.toList.filter (· != "")

/-- The file of a schema. -/
def Config.schemaUnit (c : Config) (s : Schema) : FileUnit :=
  let target := ModuleName.ofDotted s.finalName
  { name := fileName [c.baseLocation, c.schemaLocation] target
    target
    schemas := [s]
    directives := givenList c.schemaUse ++ s.directives }

/-- The files of schemas. -/
def Config.schemaFiles (c : Config) (schemas : List Schema) : FileMap :=
  schemas.foldl (fun files s =>
    files.extend (c.schemaUnit s) fun f =>
      { f with
        schemas := f.schemas ++ [s]
        directives := f.directives ++ (c.schemaUnit s).directives }) OrderedMap.empty

/-- The path of the file of an operation module. -/
def Config.operationFileName (c : Config) (m : ModuleName) : String :=
  fileName [c.baseLocation, c.operationLocation] m

/-- The file of an operation. -/
def Config.operationUnit (c : Config) (op : Operation) : FileUnit :=
  { name := c.operationFileName op.home
    target := op.home
    operations := [op]
    directives := givenList c.defaultClient }

/-- The interface file of an operation. -/
def Config.interfaceUnit (c : Config) (op : Operation) : FileUnit :=
  { name := c.operationFileName op.home ++ interfaceEnding
    target := op.home.child c.interfaceSuffix
    operations := [op]
    isInterface := true }

/-- The files that the operations make up, each with the file `unit op` of its own. -/
def filesOfOperations (unit : Operation → FileUnit) (operations : List Operation) : FileMap :=
  operations.foldl (fun files op =>
    files.extend (unit op) fun f => { f with operations := f.operations ++ [op] }) OrderedMap.empty

/-- The files of operations. -/
def Config.operationFiles (c : Config) (operations : List Operation) : FileMap :=
  filesOfOperations c.operationUnit operations

/-- The interface files of operations, if they are wanted. -/
def Config.interfaceFiles (c : Config) (operations : List Operation) : FileMap :=
  if c.interfaces then filesOfOperations c.interfaceUnit operations else OrderedMap.empty

/-! ## Reconciling -/

/-- The file of a module that has schemas and operations. -/
def FileUnit.merge (schemaUnit operationUnit : FileUnit) : FileUnit :=
  { name := operationUnit.name
    target := operationUnit.target
    operations := operationUnit.operations
    schemas := schemaUnit.schemas
    directives := operationUnit.directives ++ schemaUnit.directives
    isInterface := false }

/-- The files with an operation file, merged with the schema file of its module. -/
def mergeOperationFile (files : FileMap) (m : ModuleName) (unit : FileUnit) : FileMap :=
  match files.get? m with
  | none => files.insert m unit
  | some schemaUnit => files.insert m (schemaUnit.merge unit)

/-- The files with an interface file, if its module has none. -/
def addInterfaceFile (files : FileMap) (m : ModuleName) (unit : FileUnit) :
    Except Failure FileMap :=
  if files.contains m then .error (.unsupportedMerge m) else .ok (files.insert m unit)

/-- Schema files first, then operation files, then interface files. -/
def reconcile (schemaFiles operationFiles interfaceFiles : FileMap) : Except Failure FileMap :=
  let files := operationFiles.entries.foldl (fun files e => mergeOperationFile files e.1 e.2)
    schemaFiles
  interfaceFiles.entries.foldlM (fun files e => addInterfaceFile files e.1 e.2) files

/-! ## Showing and rendering -/

/-- A text, or a dash in place of the empty text. -/
def orDash (s : String) : String := if s == "" then "-" else s

/-- A row of the table of files. -/
def fileRow (baseModule : String) (m : ModuleName) (unit : FileUnit) : List String :=
  [(m.qualify baseModule).dotted, unit.name, toString unit.operations.length,
    toString unit.schemas.length,
    orDash (", ".intercalate unit.directives),
    if unit.isInterface then "yes" else ""]

/-- The table of files. -/
def fileRows (baseModule : String) (files : FileMap) : List (List String) :=
  files.entries.map fun (m, unit) => fileRow baseModule m unit

/-- How a file is rendered, given its module with the base module in front. -/
abbrev Renderer := ModuleName → FileUnit → Except Failure String

/-- Renders all files: the texts by file name.  If one file cannot be rendered there is no answer. -/
def emit (render : Renderer) (baseModule : String) (files : FileMap) :
    Except Failure (OrderedMap String String) :=
  files.entries.foldlM (fun rendered (m, unit) => do
    let text ← render (m.qualify baseModule) unit
    return rendered.insert unit.name text) OrderedMap.empty

end ClientPlan
