/-!
# Types

What a schema says about values, without regard to any language the client is written in.  The
planner carries types along and never looks inside them.
-/

set_option autoImplicit false

namespace ClientPlan

/-- The type of a value. -/
inductive TypeDescriptor where
  /-- A primitive type with an optional format. -/
  | primitive (name : String) (format : Option String)
  /-- A collected schema, by its final name. -/
  | schema (name : String)
  /-- A sequence. -/
  | array (items : TypeDescriptor)
  /-- A mapping from texts. -/
  | map (values : TypeDescriptor)
  /-- One of several types. -/
  | union (members : List TypeDescriptor)
  /-- Any value. -/
  | any
  /-- Content that is not structured: a file, a text or a stream. -/
  | binary
  /-- A type that also allows the absent value. -/
  | orNull (t : TypeDescriptor)
deriving Inhabited, Repr

namespace TypeDescriptor

/-- Whether a type allows the absent value. -/
def isNullable : TypeDescriptor → Bool
  | orNull _ => true
  | _ => false

/-- Whether a type is that of unstructured content. -/
def isBinary : TypeDescriptor → Bool
  | binary => true
  | _ => false

/-- The type that also allows the absent value if `nullable` holds; unstructured content never
does. -/
def withNullable (t : TypeDescriptor) (nullable : Bool) : TypeDescriptor :=
  if nullable && !t.isNullable && !t.isBinary then orNull t else t

/-- A type that has to allow the absent value does, unless it is that of unstructured content. -/
theorem withNullable_true (t : TypeDescriptor) :
    t.withNullable true = binary ∨ (t.withNullable true).isNullable = true := by
  cases t <;> simp [withNullable, isNullable, isBinary]

mutual

/-- A type as text. -/
def text : TypeDescriptor → String
  | primitive name none => name
  | primitive name (some format) => if format == "" then name else name ++ ":" ++ format
  | schema name => name
  | array items => "[" ++ items.text ++ "]"
  | map values => "map[" ++ values.text ++ "]"
  | union members => " | ".intercalate (texts members)
  | any => "any"
  | binary => "binary"
  | orNull t => t.text ++ "?"

/-- Several types as texts. -/
def texts : List TypeDescriptor → List String
  | [] => []
  | t :: r => t.text :: texts r

end

end TypeDescriptor

end ClientPlan
