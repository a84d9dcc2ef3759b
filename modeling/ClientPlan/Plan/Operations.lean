import ClientPlan.Plan.Parameters

/-!
# Operations

An endpoint becomes one operation for each of its homes.  The operations of an endpoint share all but
the module and the name of the function.
-/

set_option autoImplicit false

namespace ClientPlan

/-- The content type of responses whose type is known. -/
def jsonContentType : String := "application/json"

namespace Setting

/-- The types of a request body, sorted by content type. -/
def bodyTypes (s : Setting) (names : SchemaNames) (e : Endpoint) :
    Except Failure (List (String × TypeDescriptor)) := do
  let types ← (s.policy.requestBody e).mapM fun m => do
    let type ← s.typeOf names m.position
    return (m.contentType, type)
  return types.mergeSort fun x y => decide (x.1 ≤ y.1)

/-- The type of a response: none without content, that of the JSON content if there is some, and
otherwise that of unstructured content. -/
def responseType (s : Setting) (names : SchemaNames) (r : Response) :
    Except Failure (Option TypeDescriptor) :=
  match r.content with
  | none => .ok none
  | some content =>
    if content.isEmpty then .ok none
    else
      match content.get? jsonContentType with
      | none => .ok (some .binary)
      | some m => some <$> s.typeOf names m.position

/-- The types of all responses, by status. -/
def responseTypes (s : Setting) (names : SchemaNames) (e : Endpoint) :
    Except Failure (OrderedMap String (Option TypeDescriptor)) :=
  e.responses.traverse fun _ r => s.responseType names r

/-- The module for a computed module path; an empty path is the default module. -/
def homeModule (s : Setting) (path : List String) : ModuleName :=
  if path.isEmpty then .ofDotted s.config.defaultModule else ⟨path, false⟩

/-- The endpoint as it is named: without tags, if they are not to be used. -/
def named (s : Setting) (e : Endpoint) : Endpoint :=
  if s.config.useTags then e else { e with tags := [] }

/-- The operations of an endpoint, one for each home. -/
def operationsOf (s : Setting) (names : SchemaNames) (e : Endpoint) : Logged (List Operation) := do
  let requestBody ← s.bodyTypes names e
  let responses ← s.responseTypes names e
  let (pathParams, queryParams) ←
    s.classify names e.path (mergeParameters e.pathParameters e.parameters) e.operationId
  let e := s.named e
  let homes ← s.policy.homes e
  return homes.map fun home => {
    home := s.homeModule home.modules
    function := s.policy.functionName e home
    method := s.policy.requestMethod e
    path := e.path
    pathParams, queryParams, requestBody, responses
    docstring := s.policy.docstring e queryParams
    summary := e.summary
    description := e.description
    externalDocs := e.externalDocs
    deprecated := e.deprecated
    operationId := e.operationId }

/-- The operations of the included ones among some endpoints, in order. -/
def operationsOfAll (s : Setting) (names : SchemaNames) : List Endpoint → Logged (List Operation)
  | [] => return []
  | e :: r => do
    let first ← if ← s.includes e then s.operationsOf names e else pure []
    let rest ← s.operationsOfAll names r
    return first ++ rest

/-- The operations of all included endpoints. -/
def operations (s : Setting) (names : SchemaNames) : Logged (List Operation) :=
  s.operationsOfAll names s.api.endpoints

end Setting

end ClientPlan
