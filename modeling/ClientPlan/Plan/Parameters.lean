import ClientPlan.Naming.Template
import ClientPlan.Plan.Setting

/-!
# Parameters of functions

The parameters of a path and of an operation are merged; a parameter of the operation replaces one of
the path with the same name and location.  The parameters in the path of a function follow the
placeholders of the template, and every placeholder needs a declared parameter.  The parameters in
the query follow the declarations.
-/

set_option autoImplicit false

namespace ClientPlan

/-- Whether two parameters have the same name and location. -/
def Parameter.replaces (a b : Parameter) : Bool := a.name == b.name && a.location == b.location

/-- The parameters of the path that are not replaced, followed by those of the operation. -/
def mergeParameters (shared own : List Parameter) : List Parameter :=
  shared.filter (fun p => !own.any (·.replaces p)) ++ own

/-- The parameter for a placeholder: the first of that name in the path, or else the first of that
name. -/
def parameterFor? (parameters : List Parameter) (name : String) : Option Parameter :=
  let named := parameters.filter fun p => p.name == name
  (named.find? fun p => p.location == .path).or named.head?

namespace Setting

/-- The parameter of a function that a declared parameter becomes. -/
def paramOf (s : Setting) (names : SchemaNames) (location : Location) (p : Parameter) :
    Except Failure Param := do
  let type ← s.typeOf names p.position
  return ⟨p.name, location, p.description, p.schema, type⟩

/-- The parameter of a function for a placeholder of the path template. -/
def pathParam (s : Setting) (names : SchemaNames) (path : String) (parameters : List Parameter)
    (operationId : Option String) (placeholder : String) : Except Failure Param :=
  match parameterFor? parameters placeholder with
  | none => .error (.unboundPlaceholder path placeholder operationId)
  | some p => s.paramOf names .path p

/-- The parameters of a function in the path and in the query. -/
def classify (s : Setting) (names : SchemaNames) (path : String) (parameters : List Parameter)
    (operationId : Option String) : Except Failure (List Param × List Param) := do
  let inPath ← (Naming.placeholders path).mapM (s.pathParam names path parameters operationId)
  let inQuery ← (parameters.filter fun p => p.location == .query).mapM (s.paramOf names .query)
  return (inPath, inQuery)

end Setting

end ClientPlan
