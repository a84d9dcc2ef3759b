import ClientPlan.Naming.Template
import ClientPlan.Naming.Token

/-!
# Names of operations

An operation gets one home for each of its tags: the module is named after the tag and the function
after the operation id, without the tag's name in front of it.  An operation without usable tags has
one home: its id is a path of modules that ends in the function name.  An operation without a usable
id is named after its method and path.
-/

set_option autoImplicit false

namespace ClientPlan.Naming

/-- A place for an operation: the path of its module and the name of its function there. -/
structure Home where
  /-- The module path, from the outermost module on; empty for the default module. -/
  modules : List String
  /-- The function name. -/
  function : String
deriving DecidableEq, Repr

/-- The type names of the tags that have one, each once, in order of first appearance. -/
def tagHomes (tags : List String) : List String :=
  ((tags.map typeName).eraseDups).filter (· != "")

/-- The function name without the name of its home in front. -/
def withoutHome (home : String) (function : List Char) : List Char :=
  let lead := normalize home.toList ++ ['_']
  if lead.isPrefixOf function then function.drop lead.length else function

/-- The home named by the id alone: the segments between slashes are modules, the last one is the
function. -/
def pathHome (id : String) : Home :=
  let segments := id.toList.splitOn '/'
  { modules := (segments.dropLast.map fun s => String.ofList (typeCase s)).filter (· != "")
    function := String.ofList (normalize (segments.getLastD [])) }

/-- The homes of an operation with the given id and tags. -/
def homes (id : String) (tags : List String) : List Home :=
  match tagHomes tags with
  | [] => [pathHome id]
  | names =>
    names.map fun home => ⟨[home], String.ofList (withoutHome home (normalize id.toList))⟩

/-- A template as text in which each placeholder reads as the word `by` and its name. -/
def spelledOut (path : String) : List Char :=
  (pieces path.toList).flatMap fun
    | .literal c => [c]
    | .placeholder name => 'b' :: 'y' :: '_' :: name

/-- The operation id that a method and a path stand for. -/
def fallbackId (method path : String) : String :=
  String.ofList (normalize (method.toList ++ ' ' :: spelledOut path))

end ClientPlan.Naming
