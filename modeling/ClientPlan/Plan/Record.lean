import ClientPlan.Api.Basic
import ClientPlan.Naming.Module
import ClientPlan.Schema.Encoder

/-!
# Planned records

What planning produces: schemas, each under one final name, and operations, each at home in one
module, and the files that hold them.
-/

set_option autoImplicit false

namespace ClientPlan

/-- A property of a schema. -/
structure SchemaField where
  /-- The name. -/
  name : String
  /-- The type. -/
  type : TypeDescriptor
  /-- Whether the property must be present. -/
  required : Bool

/-- A collected schema. -/
structure Schema where
  /-- The name that all its identities share. -/
  finalName : String
  /-- The places that resolve to the schema, in order of discovery. -/
  identities : List String
  /-- The node at the first identity. -/
  node : Value
  /-- The type, once it is known. -/
  type : Option TypeDescriptor := none
  /-- The properties, once they are known. -/
  fields : List SchemaField := []
  /-- The directives that the file of the schema needs. -/
  directives : List String := []

/-- A parameter of a client function. -/
structure Param where
  /-- The name. -/
  name : String
  /-- Where it is sent. -/
  location : Location
  /-- The description. -/
  description : Option String
  /-- The schema node. -/
  schema : Value
  /-- The type. -/
  type : TypeDescriptor

/-- A client function: an endpoint at one of its homes. -/
structure Operation where
  /-- The module. -/
  home : ModuleName
  /-- The name of the function. -/
  function : String
  /-- The method of the request. -/
  method : Method
  /-- The path template. -/
  path : String
  /-- The parameters in the path, in the order of the placeholders. -/
  pathParams : List Param
  /-- The parameters in the query, in the order of their declarations. -/
  queryParams : List Param
  /-- The types of the request body, sorted by content type. -/
  requestBody : List (String × TypeDescriptor)
  /-- The types of the responses; a response without content has none. -/
  responses : OrderedMap String (Option TypeDescriptor)
  /-- The documentation of the function. -/
  docstring : String
  /-- A short summary. -/
  summary : Option String
  /-- The description. -/
  description : Option String
  /-- The link to documentation elsewhere. -/
  externalDocs : Option ExternalDocs
  /-- Whether the operation is deprecated. -/
  deprecated : Bool
  /-- The identifier given by the description. -/
  operationId : Option String

/-- A planned file. -/
structure FileUnit where
  /-- The path without an extension. -/
  name : String
  /-- The module. -/
  target : ModuleName
  /-- The operations. -/
  operations : List Operation := []
  /-- The schemas. -/
  schemas : List Schema := []
  /-- The directives. -/
  directives : List String := []
  /-- Whether the file holds an interface only. -/
  isInterface : Bool := false

/-- Planned files by their modules. -/
abbrev FileMap := OrderedMap ModuleName FileUnit

/-- Collected schemas by their final names. -/
abbrev SchemaMap := OrderedMap String Schema

end ClientPlan
