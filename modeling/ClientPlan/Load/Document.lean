import ClientPlan.Load.Address
import ClientPlan.Load.ContentType
import ClientPlan.Text.Lower
import ClientPlan.Workspace.Surroundings

/-!
# Loading documents

A document comes from the standard input, from a server or from a file.  YAML is expected if the
server names it as the type of the content, or if the name of the file ends that way.
-/

set_option autoImplicit false

namespace ClientPlan

/-- Where a document comes from. -/
inductive Origin where
  | input
  | address (url : String)
  | file (path : Path)
deriving DecidableEq, Repr

/-- The origin that a text names. -/
def Origin.ofText (s : String) : Origin :=
  if s == "-" then .input
  else if s.startsWith "http://" || s.startsWith "https://" then .address s
  else .file (.ofText s)

/-- What is expected of a file. -/
def Dialect.ofPath (p : Path) : Dialect :=
  if [".yaml", ".yml"].contains (Text.lowercase p.extension) then .yaml else .either

/-- The text that a server answers with, and what it is expected to be. -/
def Reply.content (url : String) : Reply → Except Failure (String × Dialect)
  | .answered status contentType text =>
    if 200 ≤ status && status < 300 then do
      let shown ← ((ContentType.charset contentType).reread text).mapError fun fault =>
        .malformed (.badCharset fault)
      return (shown, .ofContentType contentType)
    else .error (.document (.badStatus status url))
  | .unreachable reason => .error (.document (.fetchFailed url reason))

namespace Surroundings

/-- The text of a file, and what it is expected to be. -/
def fileContent (s : Surroundings) (p : Path) : Except Failure (String × Dialect) :=
  match s.files.readFile s.directory p with
  | .error e => .error (.file e)
  | .ok none => .error (.document (.fileNotFound p.text))
  | .ok (some octets) => do return (← fileText octets, .ofPath p)

/-- The text at an origin, and what it is expected to be. -/
def content (s : Surroundings) : Origin → Except Failure (String × Dialect)
  | .input => .ok (s.input, .either)
  | .address url =>
    if Address.isValid url then (s.fetch url).content url else .error (.malformed .badAddress)
  | .file p => s.fileContent p

/-- The document that comes from where `source` says.  A YAML collection that contains itself has no
finite value; it is cut off after `Yaml.cycleDepth` levels. -/
def load (s : Surroundings) (source : String) : Except Failure Value := do
  let (text, dialect) ← s.content (.ofText source)
  if Text.allBlank text then
    throw (.document (.blank (if source == "-" then "stdin" else source)))
  dialect.document s.stack text

end Surroundings

end ClientPlan
