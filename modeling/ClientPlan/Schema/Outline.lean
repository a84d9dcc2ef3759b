import ClientPlan.Api.Field
import ClientPlan.Document.Reference
import ClientPlan.Pointer.Basic
import ClientPlan.Schema.Type

/-!
# The outline of a schema

A schema that is no reference is made up of parts at certain keywords.  `outline` decides, in a fixed
order of keywords, which of the parts make up the type of the schema and how.

Main statement: every part of an outline is smaller than the schema and holds none but its references
(`isPart_of_mem_parts`).
-/

set_option autoImplicit false

namespace ClientPlan

/-- A schema node and the pointer to it. -/
structure Position where
  /-- The node. -/
  node : Value
  /-- The pointer to it. -/
  pointer : String

/-- How the parts of a schema make up its type. -/
inductive Outline where
  /-- One of several parts. -/
  | union (members : List Position)
  /-- The only part. -/
  | only (part : Position)
  /-- A sequence of what the part describes, or of anything. -/
  | array (items : Option Position)
  /-- A mapping to what the part describes, or to anything. -/
  | map (values : Option Position)
  /-- No parts. -/
  | leaf (t : Except Failure TypeDescriptor)

namespace Outline

/-- The parts of an outline. -/
def parts : Outline → List Position
  | union members => members
  | only part => [part]
  | array items => items.toList
  | map values => values.toList
  | leaf _ => []

end Outline

/-- The list at a key. -/
def listAt? (node : Value) (key : String) : Option (List Value) :=
  match node.get? key with
  | some (.list items) => some items
  | _ => none

/-- The mapping at a key. -/
def mapAt? (node : Value) (key : String) : Option Value :=
  match node.get? key with
  | some (.map entries) => some (.map entries)
  | _ => none

/-- The members of the list at a key, with their pointers. -/
def memberPositions (keyword pointer : String) (members : List Value) : List Position :=
  members.zipIdx.map fun (member, i) => ⟨member, Pointer.item pointer keyword i⟩

/-- The names of the primitive types. -/
def primitives : List String := ["string", "integer", "number", "boolean"]

/-- The type of a primitive schema. -/
def primitiveType (name : String) (node : Value) : Except Failure TypeDescriptor :=
  (Checked.required (optionalTextField "format" (node.get? "format"))).map
    fun format => .primitive name format

/-- The type of a schema without parts whose type keyword has the value `type`. -/
def leafType (node type : Value) : Except Failure TypeDescriptor :=
  match type with
  | .str name =>
    if name == "string" && (node.get? "format").any (Value.isText "binary") then .ok .binary
    else if primitives.contains name then primitiveType name node
    else if name == "null" then .ok (.orNull .any)
    else .ok .any
  | v => if v.isSought then .ok .any else .error (.malformed .notAKey)

/-- Whether a schema is one of objects. -/
def describesObject (node type : Value) : Bool :=
  type.isText "object" || (isNull type && (node.has "properties" || node.has "allOf"))
where
  /-- Whether a value is the absent value. -/
  isNull : Value → Bool
    | .null => true
    | _ => false

/-- Whether a schema is one of sequences. -/
def describesArray (node type : Value) : Bool :=
  type.isText "array" || (describesObject.isNull type && node.has "items")

/-- The outline of a schema that is no reference and whose type keyword has the value `type`. -/
def outline (node type : Value) (pointer : String) : Outline :=
  match listAt? node "oneOf", listAt? node "anyOf", listAt? node "allOf" with
  | some members, _, _ => .union (memberPositions "oneOf" pointer members)
  | none, some members, _ => .union (memberPositions "anyOf" pointer members)
  | none, none, some [member] => .only ⟨member, Pointer.item pointer "allOf" 0⟩
  | none, none, _ =>
    if describesArray node type then
      .array ((node.get? "items").map fun v => ⟨v, Pointer.field pointer "items"⟩)
    else if describesObject node type then
      .map ((mapAt? node "additionalProperties").map fun v =>
        ⟨v, Pointer.field pointer "additionalProperties"⟩)
    else .leaf (leafType node type)

/-! ## Parts are smaller -/

/-- A value that stands somewhere below a node. -/
def Value.IsPart (v node : Value) : Prop := v.size < node.size ∧ v.references ⊆ node.references

theorem isPart_of_get? {key : String} {v node : Value} (h : node.get? key = some v) :
    v.IsPart node := ⟨Value.size_get?_lt h, Value.references_get?_subset h⟩

theorem get?_of_listAt? {key : String} {node : Value} {items : List Value}
    (h : listAt? node key = some items) : node.get? key = some (.list items) := by
  unfold listAt? at h
  split at h
  · cases h; assumption
  · cases h

theorem get?_of_mapAt? {key : String} {node v : Value} (h : mapAt? node key = some v) :
    node.get? key = some v := by
  unfold mapAt? at h
  split at h
  · cases h; assumption
  · cases h

theorem isPart_of_listAt? {key : String} {v node : Value} {items : List Value}
    (h : listAt? node key = some items) (hv : v ∈ items) : v.IsPart node := by
  have hp := isPart_of_get? (get?_of_listAt? h)
  exact ⟨Nat.lt_trans (Value.size_lt_of_mem hv) hp.1,
    List.Subset.trans (Value.references_subset_of_mem hv) hp.2⟩

theorem mem_of_mem_memberPositions {keyword pointer : String} {members : List Value} {p : Position}
    (h : p ∈ memberPositions keyword pointer members) : p.node ∈ members := by
  obtain ⟨⟨v, i⟩, hm, rfl⟩ := List.mem_map.1 h
  exact (List.mem_zipIdx' hm).2 ▸ List.getElem_mem _

/-- Every part of an outline is a part of the schema. -/
theorem isPart_of_mem_parts {node type : Value} {pointer : String} {p : Position} {o : Outline}
    (ho : outline node type pointer = o) (h : p ∈ o.parts) : p.node.IsPart node := by
  subst ho
  unfold outline at h
  split at h
  · next hl => exact isPart_of_listAt? hl (mem_of_mem_memberPositions h)
  · next hl => exact isPart_of_listAt? hl (mem_of_mem_memberPositions h)
  · next hl =>
    rw [Outline.parts, List.mem_singleton] at h
    subst h
    exact isPart_of_listAt? hl List.mem_cons_self
  · split at h
    · obtain ⟨v, hv, rfl⟩ := Option.map_eq_some_iff.1 (Option.mem_toList.1 h)
      exact isPart_of_get? hv
    · split at h
      · obtain ⟨v, hv, rfl⟩ := Option.map_eq_some_iff.1 (Option.mem_toList.1 h)
        exact isPart_of_get? (get?_of_mapAt? hv)
      · cases h

end ClientPlan
