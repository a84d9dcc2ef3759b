import ClientPlan.Json.Reader
import ClientPlan.Workspace.Surroundings
import ClientPlan.Yaml.Value

/-!
# Documents in text

A document is a mapping, written in JSON or in YAML.  Unless YAML is expected, JSON is tried first,
because it is the stricter of the two.

Two kinds of documents are not held as they are.  A text with half of a surrogate pair is no sequence
of characters, and loading stops there with the fault `loneSurrogate`.  A node in YAML that is a part
of itself has no value of finite size, and what is loaded is the value with that node written out to
some depth (`Yaml.cycleDepth`); what is said of loaded documents is said of this value.
-/

set_option autoImplicit false

namespace ClientPlan

/-- What a document is expected to be written in. -/
inductive Dialect where
  /-- JSON or YAML. -/
  | either
  /-- YAML. -/
  | yaml
deriving DecidableEq, Repr

section

variable (stack : Stack)

/-- The value that a text is in JSON, unless it is no JSON or the absent value. -/
def jsonValue? (text : String) : Except Failure (Option Value) :=
  match Json.read stack.nesting text with
  | .ok .null => .ok none
  | .ok v => .ok (some v)
  | .error f =>
    match f.escaping? with
    | some m => .error (.malformed m)
    | none => .ok none

/-- The value that a text is in YAML. -/
def yamlValue (text : String) : Except Failure Value :=
  if stack.exhausts text then .error (.malformed .tooDeep)
  else
    match Yaml.read text with
    | .ok v => .ok (v.getD .null)
    | .error .malformed => .error (.document .unparsable)
    | .error (.scalar m) => .error (.malformed m)

/-- The value that a text is. -/
def Dialect.value (d : Dialect) (text : String) : Except Failure Value := do
  let fromJson ← if d == .yaml then pure none else jsonValue? stack text
  match fromJson with
  | some v => return v
  | none => yamlValue stack text

/-- The document that a text is. -/
def Dialect.document (d : Dialect) (text : String) : Except Failure Value := do
  match ← d.value stack text with
  | .map entries => return .map entries
  | .null => throw (.document (.notAMapping "empty document"))
  | v => throw (.document (.notAMapping v.kind))

end

end ClientPlan
