import ClientPlan.Api.Basic
import ClientPlan.Api.Field
import ClientPlan.Pointer.Resolve

/-!
# Reading a description

`readApi` builds the typed view of a document.  References to path items, parameters, request bodies
and responses are followed; references to schemas are kept, because they are the identity of what
they name.  Each schema node is stored with the pointer to the place where it stands.

Entries of no use are passed over: parameters without a name or with an unknown location, and parts
that are no mappings.  A record with fields of a wrong kind stops the reading.
-/

set_option autoImplicit false

namespace ClientPlan

/-- The schema node at an entry: a mapping, or the absent value. -/
def schemaNode : Option Value → Value
  | some (.map entries) => .map entries
  | _ => .null

/-- Whether a field is missing or holds the absent value. -/
def isAbsent : Option Value → Bool
  | none | some .null => true
  | _ => false

/-- Whether a field counts as true. -/
def isSet (field : Option Value) : Bool := field.any Value.isTrue

/-! ## Parameters -/

/-- The schema node of a parameter and its pointer: the node at `schema`, or else the schema of the
first content type. -/
def parameterSchema (node : Value) (pointer : String) : Except Failure (Value × String) :=
  let declared := node.get? "schema"
  if isAbsent declared then
    match node.get? "content" with
    | some (.map ((contentType, media) :: _)) => do
      let contentType ← contentType.written
      return (schemaNode (media.get? "schema"),
        Pointer.join pointer ["content", contentType, "schema"])
    | _ => .ok (.null, Pointer.field pointer "schema")
  else .ok (schemaNode declared, Pointer.field pointer "schema")

/-- The location that a parameter declares; without one it is a query parameter. -/
def parameterLocation (node : Value) : Option Location :=
  match node.get? "in" with
  | none => some .query
  | some v => v.text?.bind Location.ofName?

/-- Reads a parameter that is no reference. -/
def readParameterNode (node : Value) (pointer : String) : Except Failure (Option Parameter) :=
  match node.get? "name", parameterLocation node with
  | some name, some location => do
    let (declared, pointer) ← parameterSchema node pointer
    let name ← name.written
    let (description, schema) ← (optionalTextField "description" (node.get? "description")).both
      (mappingField "schema" declared) |>.required
    return some {
      name, location, description, schema, pointer
      required := location == .path || isSet (node.get? "required") }
  | _, _ => .ok none

/-- Reads a member of a list of parameters. -/
def readParameter (root : Value) (pointer : String) (member : Value) :
    Except Failure (Option Parameter) := do
  let (node, pointer) ← Pointer.follow root member pointer
  readParameterNode node pointer

/-- Reads a list of parameters. -/
def readParameters (root : Value) (field : Option Value) (pointer : String) :
    Except Failure (List Parameter) := do
  let members ← membersOf field
  let found ← members.zipIdx.mapM fun (member, i) =>
    readParameter root (Pointer.join pointer [.index i]) member
  return found.reduceOption

/-! ## Content -/

/-- Reads the schema of one content type. -/
def readMedia (contentType media : Value) (pointer : String) : Except Failure Media := do
  let key ← contentType.written
  let (name, schema) ← (textField "content_type" contentType).both
    (mappingField "schema" (schemaNode (media.get? "schema"))) |>.required
  return ⟨name, schema, Pointer.join pointer [key, "schema"]⟩

/-- Reads the schemas of all content types. -/
def readContent (field : Option Value) (pointer : String) : Except Failure Content :=
  match field with
  | some (.map entries) =>
    entries.foldlM (fun content (contentType, media) => do
      let m ← readMedia contentType media pointer
      return content.insert m.contentType m) OrderedMap.empty
  | _ => .ok OrderedMap.empty

/-! ## Request bodies and responses -/

/-- Reads a request body. -/
def readRequestBody (root : Value) (field : Option Value) (pointer : String) :
    Except Failure (Option RequestBody) :=
  if isAbsent field then .ok none
  else do
    let (node, pointer) ← Pointer.follow root (field.getD .null) pointer
    if !node.isMap then return none
    let content ← readContent (node.get? "content") (Pointer.field pointer "content")
    let description ← (optionalTextField "description" (node.get? "description")).required
    return some ⟨isSet (node.get? "required"), description, content⟩

/-- Reads the response to one status. -/
def readResponse (root : Value) (status : String) (member : Value) (pointer : String) :
    Except Failure (Option Response) := do
  let (node, pointer) ← Pointer.follow root member pointer
  if !node.isMap then return none
  let content ←
    if isAbsent (node.get? "content") then pure none
    else some <$> readContent (node.get? "content") (Pointer.field pointer "content")
  let description ← (optionalTextField "description" (node.get? "description")).required
  return some ⟨status, description, content⟩

/-- Reads the responses by their status. -/
def readResponses (root : Value) (field : Option Value) (pointer : String) :
    Except Failure (OrderedMap String Response) := do
  let entries ← entriesOf field
  entries.foldlM (fun responses (status, member) => do
    let status ← status.written
    match ← readResponse root status member (Pointer.field pointer status) with
    | some response => return responses.insert status response
    | none => return responses) OrderedMap.empty

/-- Reads a link to documentation elsewhere; without an address there is none. -/
def readExternalDocs (field : Option Value) : Except Failure (Option ExternalDocs) :=
  match field.bind (Value.get? "url") with
  | some url =>
    if !url.isTrue then .ok none
    else do
      let (url, description) ← (textField "url" url).both
        (optionalTextField "description" (field.bind (Value.get? "description"))) |>.required
      return some ⟨url, description⟩
  | none => .ok none

/-! ## Endpoints -/

/-- The texts of an endpoint: path, operation id, summary and description. -/
def readEndpointTexts (path node : Value) :
    Except Failure (String × Option String × Option String × Option String) :=
  (textField "path" path).both ((optionalTextField "operation_id" (node.get? "operationId")).both
    ((optionalTextField "summary" (node.get? "summary")).both
      (optionalTextField "description" (node.get? "description")))) |>.required

/-- Reads an endpoint of a path. -/
def readEndpoint (root path : Value) (shared : List Parameter) (method : Method) (node : Value)
    (pointer : String) : Except Failure Endpoint := do
  let tags ← (← membersOf (node.get? "tags")).mapM Value.written
  let parameters ←
    readParameters root (node.get? "parameters") (Pointer.field pointer "parameters")
  let requestBody ←
    readRequestBody root (node.get? "requestBody") (Pointer.field pointer "requestBody")
  let responses ←
    readResponses root (node.get? "responses") (Pointer.field pointer "responses")
  let externalDocs ← readExternalDocs (node.get? "externalDocs")
  let (path, operationId, summary, description) ← readEndpointTexts path node
  return {
    path, method, operationId, tags, parameters
    pathParameters := shared
    requestBody, responses, summary, description, externalDocs
    deprecated := isSet (node.get? "deprecated") }

/-- Reads the endpoint at a method of a path item, if there is one. -/
def readMethod (root path item : Value) (shared : List Parameter) (pointer : String)
    (method : Method) : Except Failure (Option Endpoint) :=
  match item.get? method.name with
  | some (.map entries) =>
    some <$> readEndpoint root path shared method (.map entries) (Pointer.field pointer method.name)
  | _ => .ok none

/-- Reads a path item that is no reference. -/
def readPathItem (root path item : Value) (pointer : String) : Except Failure PathItem := do
  let parameters ←
    readParameters root (item.get? "parameters") (Pointer.field pointer "parameters")
  let endpoints ← Method.all.mapM (readMethod root path item parameters pointer)
  let path ← (textField "path" path).required
  return ⟨path, parameters, endpoints.reduceOption⟩

/-- Reads the path items by their templates. -/
def readPaths (root : Value) : Except Failure (OrderedMap String PathItem) := do
  let entries ← entriesOf (root.get? "paths")
  entries.foldlM (fun paths (path, member) => do
    let (item, pointer) ← Pointer.follow root member (Pointer.join "#/paths" [← path.written])
    if !item.isMap then return paths
    let item ← readPathItem root path item pointer
    return paths.insert item.path item) OrderedMap.empty

/-- Reads what a description says about itself. -/
def readInfo (root : Value) : Except Failure ApiInfo := do
  let info ← entriesOf (root.get? "info")
  let version ← ((lookupText "version" info).getD (.str "0.0.0")).written
  let (title, description) ←
    (textField "title" ((lookupText "title" info).getD (.str "Untitled API"))).both
      (optionalTextField "description" (lookupText "description" info)) |>.required
  return ⟨title, version, description⟩

/-- Reads a whole description whose format version is given. -/
def readApi (document : Value) (formatVersion : String) : Except Failure Api := do
  let paths ← readPaths document
  let info ← readInfo document
  let document ← (mappingField "raw" document).required
  return ⟨info, formatVersion, paths, document⟩

end ClientPlan
