import ClientPlan.Plan.Setting
import ClientPlan.Schema.Declaration

/-!
# Fields of schemas

The fields of a collected schema are its declared properties with their types.  The types of fields
refer to other collected schemas by name, so all schemas are discovered first.
-/

set_option autoImplicit false

namespace ClientPlan

/-- The field of a declared property. -/
def Setting.fieldOf (s : Setting) (names : SchemaNames) (d : Declaration) :
    Except Failure SchemaField := do
  let type ← s.typeOf names d.position
  let name ← (textField "name" d.name).required
  return ⟨name, type, d.required⟩

/-- The place of the node of a schema. -/
def Schema.position (schema : Schema) : Position :=
  ⟨schema.node, schema.identities.head?.getD ""⟩

/-- The fields of a schema. -/
def Setting.fieldsOf (s : Setting) (names : SchemaNames) (schema : Schema) :
    Except Failure (List SchemaField) := do
  let declarations ← Declaration.ofSchema s.api.document schema.position
  declarations.mapM (s.fieldOf names)

/-- All schemas with their types and fields. -/
def Setting.describe (s : Setting) (schemas : SchemaMap) (names : SchemaNames) :
    Except Failure SchemaMap :=
  schemas.traverse fun finalName schema => do
    let fields ← s.fieldsOf names schema
    return { schema with type := some (.schema finalName), fields }

end ClientPlan
