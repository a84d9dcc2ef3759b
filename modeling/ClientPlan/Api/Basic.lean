import ClientPlan.Document.Value
import ClientPlan.OrderedMap

/-!
# The typed view of an interface description

What a description of a web interface says about its endpoints: parameters, request bodies and
responses, each with its schema node and the pointer to that node.  Schema nodes stay raw values,
because a node that is a reference takes its identity from that reference; the absent value stands
for a missing node.
-/

set_option autoImplicit false

namespace ClientPlan

/-- A request method. -/
inductive Method where
  | get
  | put
  | post
  | delete
  | options
  | head
  | patch
  | trace
deriving DecidableEq, Repr

namespace Method

/-- The methods in processing order. -/
def all : List Method := [get, put, post, delete, options, head, patch, trace]

/-- The name of a method, which is also its key in a path item. -/
def name : Method → String
  | get => "get"
  | put => "put"
  | post => "post"
  | delete => "delete"
  | options => "options"
  | head => "head"
  | patch => "patch"
  | trace => "trace"

/-- The name of a method as it is shown. -/
def shown : Method → String
  | get => "GET"
  | put => "PUT"
  | post => "POST"
  | delete => "DELETE"
  | options => "OPTIONS"
  | head => "HEAD"
  | patch => "PATCH"
  | trace => "TRACE"

/-- The method with a given name. -/
def ofName? (s : String) : Option Method := all.find? fun m => m.name == s

end Method

/-- Where a parameter is sent. -/
inductive Location where
  | query
  | header
  | path
  | cookie
deriving DecidableEq, Repr

namespace Location

/-- The locations. -/
def all : List Location := [query, header, path, cookie]

/-- The name of a location. -/
def name : Location → String
  | query => "query"
  | header => "header"
  | path => "path"
  | cookie => "cookie"

/-- The location with a given name. -/
def ofName? (s : String) : Option Location := all.find? fun l => l.name == s

end Location

/-- A declared parameter. -/
structure Parameter where
  /-- The name. -/
  name : String
  /-- Where the parameter is sent. -/
  location : Location
  /-- Whether it must be given; a path parameter always must. -/
  required : Bool
  /-- The description. -/
  description : Option String
  /-- The schema node. -/
  schema : Value
  /-- The pointer to the schema node. -/
  pointer : String

/-- The schema of one content type. -/
structure Media where
  /-- The content type. -/
  contentType : String
  /-- The schema node. -/
  schema : Value
  /-- The pointer to the schema node. -/
  pointer : String

/-- Media by their content types. -/
abbrev Content := OrderedMap String Media

/-- A request body. -/
structure RequestBody where
  /-- Whether it must be sent. -/
  required : Bool
  /-- The description. -/
  description : Option String
  /-- What it may hold. -/
  content : Content

/-- A response to one status. -/
structure Response where
  /-- The status. -/
  status : String
  /-- The description. -/
  description : Option String
  /-- What it may hold, if the description says so at all. -/
  content : Option Content

/-- A link to documentation elsewhere. -/
structure ExternalDocs where
  /-- The address. -/
  url : String
  /-- The description. -/
  description : Option String
deriving DecidableEq, Repr

/-- A method of a path: one operation of the interface. -/
structure Endpoint where
  /-- The path template. -/
  path : String
  /-- The method. -/
  method : Method
  /-- The identifier given by the description. -/
  operationId : Option String
  /-- The tags. -/
  tags : List String
  /-- The parameters of the operation. -/
  parameters : List Parameter
  /-- The parameters of the whole path. -/
  pathParameters : List Parameter
  /-- The request body. -/
  requestBody : Option RequestBody
  /-- The responses by their status. -/
  responses : OrderedMap String Response
  /-- A short summary. -/
  summary : Option String
  /-- The description. -/
  description : Option String
  /-- The link to documentation elsewhere. -/
  externalDocs : Option ExternalDocs
  /-- Whether the operation is deprecated. -/
  deprecated : Bool

/-- The endpoints of one path. -/
structure PathItem where
  /-- The path template. -/
  path : String
  /-- The parameters of all its endpoints. -/
  parameters : List Parameter
  /-- The endpoints in processing order of their methods. -/
  endpoints : List Endpoint

/-- What a description says about itself. -/
structure ApiInfo where
  /-- The title. -/
  title : String
  /-- The version of the interface. -/
  version : String
  /-- The description. -/
  description : Option String
deriving DecidableEq, Repr

/-- A whole description. -/
structure Api where
  /-- What the description says about itself. -/
  info : ApiInfo
  /-- The version of the format of the description. -/
  formatVersion : String
  /-- The paths by their templates. -/
  paths : OrderedMap String PathItem
  /-- The document, in which references are looked up. -/
  document : Value

/-- The endpoints of all paths, in order of the paths and then of the methods. -/
def Api.endpoints (api : Api) : List Endpoint := api.paths.values.flatMap PathItem.endpoints

end ClientPlan
