import ClientPlan.Config.Basic
import ClientPlan.Naming.Operation
import ClientPlan.Pattern.Match
import ClientPlan.Pattern.Reader
import ClientPlan.Plan.Logged
import ClientPlan.Plan.Record

/-!
# Policies

A policy bundles the decisions that a generator may want to make differently: what to include, what
to call things, how to document functions and what requests look like.  `Policy.standard` is what is
done when nothing else is asked for.
-/

set_option autoImplicit false

namespace ClientPlan

/-- The decisions of planning. -/
structure Policy where
  /-- Whether an endpoint is planned. -/
  includesEndpoint : Config → Endpoint → Except Failure Bool
  /-- Whether a schema is collected under its name. -/
  includesSchema : Config → Schema → Except Failure Bool
  /-- The directives that a schema needs, given with one of its identities. -/
  schemaDirectives : Schema → List String
  /-- The declared name of a schema that is no component. -/
  schemaName : Position → Option String
  /-- The homes of an endpoint. -/
  homes : Endpoint → Logged (List Naming.Home)
  /-- The name of a function at one of the homes. -/
  functionName : Endpoint → Naming.Home → String
  /-- The documentation of a function. -/
  docstring : Endpoint → List Param → String
  /-- The request bodies that are accepted. -/
  requestBody : Endpoint → List Media
  /-- The method of the request. -/
  requestMethod : Endpoint → Method

namespace Policy

/-! ## What is left out -/

/-- Whether a path is, or is below, the path `start`; slashes at the end of `start` do not count. -/
def isBelow (path start : String) : Bool :=
  let start := Text.dropEnd (· == '/') start.toList
  let path := path.toList
  path == start || (start ++ ['/']).isPrefixOf path || start.isEmpty

/-- Whether one of the values has a property; those after it are not asked. -/
def anyOf {α : Type} (holds : α → Except Failure Bool) : List α → Except Failure Bool
  | [] => .ok false
  | a :: r => do if ← holds a then return true else anyOf holds r

/-- Whether an entry names a candidate: by itself, or as a pattern.  An entry that is no pattern only
names what is equal to it. -/
def names (entry candidate : String) : Except Failure Bool :=
  if entry == candidate then .ok true
  else
    match Pattern.ofText entry with
    | .ok whole => (whole.pattern.matchesAll whole.least candidate).mapError .pattern
    | .error .malformed => .ok false
    | .error fault => .error (.pattern fault)

/-- The texts by which an endpoint can be named: its request and its operation id. -/
def endpointCandidates (e : Endpoint) : List String :=
  (e.method.shown ++ " " ++ e.path) :: (e.operationId.toList.filter (· != ""))

/-- Whether an entry leaves an endpoint out. -/
def leavesOut (entry : String) (e : Endpoint) : Except Failure Bool :=
  if entry.startsWith "/" && isBelow e.path entry then .ok true
  else anyOf (names entry) (endpointCandidates e)

/-- An endpoint is included unless an entry leaves it out. -/
def standardIncludesEndpoint (config : Config) (e : Endpoint) : Except Failure Bool :=
  not <$> anyOf (fun entry => leavesOut entry e) config.ignore

/-- A schema is included unless an entry names it or one of its identities. -/
def standardIncludesSchema (config : Config) (s : Schema) : Except Failure Bool :=
  not <$> anyOf (fun entry => anyOf (names entry) (s.finalName :: s.identities)) config.ignore

/-! ## Names -/

/-- An object is named after its title, if that is not blank. -/
def standardSchemaName (p : Position) : Option String :=
  let isObject := (p.node.get? "type").any (Value.isText "object") || p.node.has "properties"
  match p.node.get? "title" with
  | some (.str title) => if isObject && !Text.allBlank title then some title else none
  | _ => none

/-- The operation id as it is shown in a warning. -/
def shownId : Option String → String
  | some id => Text.quoted id
  | none => Value.null.quoted

/-- The warning about an operation id without a function name. -/
def unusableIdWarning (e : Endpoint) (fallback : String) : String :=
  "operationId " ++ shownId e.operationId ++ " of " ++ e.method.shown ++ " " ++ e.path ++
    " yields no function name; using " ++ Text.quoted fallback

/-- An endpoint is named by its operation id and tags.  Without an id, or with one that leaves no
function name, the id is made of the method and the path. -/
def standardHomes (e : Endpoint) : Logged (List Naming.Home) :=
  let fallback := Naming.fallbackId e.method.name e.path
  let id := (e.operationId.filter (· != "")).getD fallback
  let homes := Naming.homes id e.tags
  if homes.any fun h => h.function == "" then do
    Logged.warn (unusableIdWarning e fallback)
    return Naming.homes fallback e.tags
  else return homes

/-! ## Documentation -/

/-- A text that is given and not empty. -/
def given (s : Option String) : Option String := s.filter (· != "")

/-- The line about a parameter. -/
def parameterLine (p : Param) : String :=
  match given p.description with
  | some d => "  * \x60" ++ p.name ++ "\x60: " ++ Text.trim d
  | none => "  * \x60" ++ p.name ++ "\x60"

/-- The section about parameters in the query. -/
def optionsSection (params : List Param) : Option String :=
  if params.isEmpty then none
  else some ("\n".intercalate ("## Options" :: "" :: params.map parameterLine))

/-- The section about documentation elsewhere. -/
def resourcesSection (d : ExternalDocs) : String :=
  let label := (given d.description).getD "API method documentation"
  "## Resources\n\n  * [" ++ label ++ "](" ++ d.url ++ ")"

/-- Summary, description, parameters and resources, as far as they are given. -/
def standardDocstring (e : Endpoint) (params : List Param) : String :=
  let description := (given e.description).filter fun d => some d != e.summary
  "\n\n".intercalate <| List.reduceOption [
    (given e.summary).map Text.trim,
    description.map Text.trim,
    optionsSection params,
    e.externalDocs.map resourcesSection]

/-! ## Policies -/

/-- The policy that is used when no other is asked for. -/
def standard : Policy where
  includesEndpoint := standardIncludesEndpoint
  includesSchema := standardIncludesSchema
  schemaDirectives _ := []
  schemaName := standardSchemaName
  homes := standardHomes
  functionName _ home := home.function
  docstring := standardDocstring
  requestBody e := (e.requestBody.map fun b => b.content.values).getD []
  requestMethod e := e.method

end Policy

end ClientPlan
