import ClientPlan.Plan.Discovery
import ClientPlan.Plan.Fields
import ClientPlan.Plan.Files
import ClientPlan.Plan.Operations

/-!
# Plans

A plan is made in stages: schemas are discovered, described and followed by operations; then files
are collected and reconciled.  Each stage takes a plan and gives a new one, and a stage that fails
gives none.  `PlanState.run` goes through all stages.
-/

set_option autoImplicit false

namespace ClientPlan

/-- A plan at some stage. -/
structure PlanState extends Setting where
  /-- The collected schemas. -/
  schemas : SchemaMap := OrderedMap.empty
  /-- The final names by identity. -/
  schemaNames : SchemaNames := OrderedMap.empty
  /-- The operations. -/
  operations : List Operation := []
  /-- The files of schemas. -/
  schemaFiles : FileMap := OrderedMap.empty
  /-- The files of operations. -/
  operationFiles : FileMap := OrderedMap.empty
  /-- The interface files. -/
  interfaceFiles : FileMap := OrderedMap.empty
  /-- All files. -/
  files : FileMap := OrderedMap.empty

/-- A stage of planning. -/
inductive Stage where
  | discoverSchemas
  | describeSchemas
  | buildOperations
  | collectSchemaFiles
  | collectOperationFiles
  | collectInterfaceFiles
  | reconcileFiles
deriving DecidableEq, Repr

/-- The stages in order. -/
def Stage.all : List Stage :=
  [discoverSchemas, describeSchemas, buildOperations, collectSchemaFiles, collectOperationFiles,
    collectInterfaceFiles, reconcileFiles]

namespace PlanState

/-- The plan with the schemas that can be reached. -/
def discoverSchemas (p : PlanState) : Except Failure PlanState := do
  let found ← p.toSetting.discover p.schemas p.schemaNames
  return { p with schemas := found.schemas, schemaNames := found.names }

/-- The plan with the types and fields of its schemas. -/
def describeSchemas (p : PlanState) : Except Failure PlanState := do
  return { p with schemas := ← p.toSetting.describe p.schemas p.schemaNames }

/-- The plan with the operations of one endpoint added, whether it is included or not. -/
def addOperations (p : PlanState) (e : Endpoint) : Logged PlanState := do
  let operations ← p.toSetting.operationsOf p.schemaNames e
  return { p with operations := p.operations ++ operations }

/-- The plan with the operations of all included endpoints added. -/
def buildOperations (p : PlanState) : Logged PlanState := do
  let operations ← p.toSetting.operations p.schemaNames
  return { p with operations := p.operations ++ operations }

/-- The plan with the files of its schemas. -/
def collectSchemaFiles (p : PlanState) : PlanState :=
  { p with schemaFiles := p.config.schemaFiles p.schemas.values }

/-- The plan with the files of its operations. -/
def collectOperationFiles (p : PlanState) : PlanState :=
  { p with operationFiles := p.config.operationFiles p.operations }

/-- The plan with the interface files of its operations. -/
def collectInterfaceFiles (p : PlanState) : PlanState :=
  { p with interfaceFiles := p.config.interfaceFiles p.operations }

/-- The plan with its files reconciled. -/
def reconcileFiles (p : PlanState) : Except Failure PlanState := do
  return { p with files := ← reconcile p.schemaFiles p.operationFiles p.interfaceFiles }

/-- The plan after one stage. -/
def advance (p : PlanState) : Stage → Logged PlanState
  | .discoverSchemas => .ofExcept p.discoverSchemas
  | .describeSchemas => .ofExcept p.describeSchemas
  | .buildOperations => p.buildOperations
  | .collectSchemaFiles => return p.collectSchemaFiles
  | .collectOperationFiles => return p.collectOperationFiles
  | .collectInterfaceFiles => return p.collectInterfaceFiles
  | .reconcileFiles => .ofExcept p.reconcileFiles

/-- The plan after several stages. -/
def advanceAll (p : PlanState) : List Stage → Logged PlanState
  | [] => return p
  | stage :: r => do (← p.advance stage).advanceAll r

/-- The plan after all stages. -/
def run (p : PlanState) : Logged PlanState := p.advanceAll Stage.all

/-- The table of the files. -/
def rows (p : PlanState) : List (List String) := fileRows p.config.baseModule p.files

/-- The texts of all files. -/
def emit (p : PlanState) (render : Renderer) : Except Failure (OrderedMap String String) :=
  ClientPlan.emit render p.config.baseModule p.files

end PlanState

/-- The plan for a setting before the first stage. -/
def Setting.start (s : Setting) : PlanState := { s with }

end ClientPlan
