import ClientPlan.Proofs.OrderedMap
import ClientPlan.Proofs.Schema.Encoding

/-!
# The schemas that types name

A type names schemas at any depth.  The types that the structural encoder makes name only collected
schemas (`schemaNames_structural_subset`).
-/

set_option autoImplicit false

namespace ClientPlan

namespace TypeDescriptor

mutual

/-- The names of all schemas inside a type. -/
def schemaNames : TypeDescriptor → List String
  | schema name => [name]
  | array items => items.schemaNames
  | map values => values.schemaNames
  | union members => namesOfAll members
  | orNull t => t.schemaNames
  | primitive _ _ | any | binary => []

/-- The names of all schemas inside several types. -/
def namesOfAll : List TypeDescriptor → List String
  | [] => []
  | t :: r => t.schemaNames ++ namesOfAll r

end

variable {t : TypeDescriptor} {names : List String}

theorem namesOfAll_subset {l : List TypeDescriptor} (h : ∀ t ∈ l, t.schemaNames ⊆ names) :
    namesOfAll l ⊆ names := by
  induction l with
  | nil => exact List.nil_subset _
  | cons t r ih =>
    rw [namesOfAll]
    have hr := ih fun t' ht' => h t' (List.mem_cons_of_mem t ht')
    exact List.append_subset.2 ⟨h t List.mem_cons_self, hr⟩

@[simp] theorem schemaNames_withNullable (nullable : Bool) :
    (t.withNullable nullable).schemaNames = t.schemaNames := by
  unfold withNullable
  split
  · rw [schemaNames]
  · rfl

end TypeDescriptor

namespace Encoder

open TypeDescriptor

variable {document : Value} {names : SchemaNames} {seen : List String} {p : Position}

/-- A type names only schemas that are collected. -/
abbrev NamesCollected (names : SchemaNames) (_ : List String × Position) (t : TypeDescriptor) :
    Prop := t.schemaNames ⊆ names.values

theorem schemaNames_schema_subset {identity name : String} (h : names.get? identity = some name) :
    (schema name).schemaNames ⊆ names.values := by
  rw [schemaNames, List.cons_subset]
  exact ⟨OrderedMap.mem_values_iff.2 ⟨identity, h⟩, List.nil_subset _⟩

theorem schemaNames_leafType {node type : Value} {t : TypeDescriptor}
    (h : leafType node type = .ok t) : t.schemaNames = [] := by
  unfold leafType primitiveType at h
  split at h
  · split at h
    · cases h
      rfl
    split at h
    · cases hf : Checked.required (optionalTextField "format" (node.get? "format")) with
      | error e => rw [hf] at h; cases h
      | ok format => rw [hf] at h; cases h; rfl
    split at h
    · cases h
      rfl
    · cases h
      rfl
  · split at h
    · cases h
      rfl
    · cases h

theorem eq_leafType_of_outline {node type : Value} {pointer : String}
    {r : Except Failure TypeDescriptor} (h : outline node type pointer = .leaf r) :
    r = leafType node type := by
  unfold outline at h
  split at h
  · cases h
  · cases h
  · cases h
  · split at h
    · cases h
    split at h
    · cases h
    · cases h
      rfl

theorem ensures_atReference (r : Value) :
    (atReference document names seen r).Ensures (NamesCollected names)
      fun t => t.schemaNames ⊆ names.values := by
  unfold atReference
  split
  · intro t ht
    cases ht
  split
  · next name hname =>
    obtain ⟨ref, -, hname⟩ := Option.bind_eq_some_iff.1 hname
    exact Body.ensures_pure (schemaNames_schema_subset hname)
  · refine Body.ensures_bind (P := fun _ => True) (fun _ _ => trivial) fun ref _ => ?_
    split
    · exact Body.ensures_pure (List.nil_subset _)
    · refine Body.ensures_bind (P := fun _ => True) (fun _ _ => trivial) fun target _ => ?_
      exact Body.ensures_call fun t ht => ht

theorem ensures_atParts (node type : Value) (pointer : String) :
    (atParts seen (outline node type pointer)).Ensures (NamesCollected names)
      fun t => t.schemaNames ⊆ names.values := by
  have hcall (m : Position) : (Body.call none (seen, m)).Ensures (NamesCollected names)
      fun t => t.schemaNames ⊆ names.values := Body.ensures_call fun t ht => ht
  cases ho : outline node type pointer with
  | union members =>
    exact Body.ensures_bind (Body.ensures_mapM fun m _ => hcall m) fun types htypes =>
      Body.ensures_pure (namesOfAll_subset htypes)
  | only part => exact hcall part
  | array items =>
    cases items with
    | none => exact Body.ensures_pure (List.nil_subset _)
    | some items => exact Body.ensures_bind (hcall items) fun t ht => Body.ensures_pure ht
  | map values =>
    cases values with
    | none => exact Body.ensures_pure (List.nil_subset _)
    | some values => exact Body.ensures_bind (hcall values) fun t ht => Body.ensures_pure ht
  | leaf r =>
    intro t ht
    rw [eq_leafType_of_outline ho] at ht
    rw [schemaNames_leafType ht]
    exact List.nil_subset _

theorem ensures_recursion (c : List String × Position) :
    (recursion document names c).Ensures (NamesCollected names) (NamesCollected names c) := by
  obtain ⟨seen, p⟩ := c
  unfold recursion
  dsimp only
  split
  · exact Body.ensures_pure (List.nil_subset _)
  split
  · exact ensures_atReference _
  split
  · next name hname =>
    unfold nameAt? at hname
    split at hname
    · cases hname
    · exact Body.ensures_pure (schemaNames_schema_subset hname)
  unfold atSchema
  split
  · refine Body.ensures_bind (Body.ensures_mapM fun t _ => Body.ensures_call fun t ht => ht) ?_
    intro members hmembers
    refine Body.ensures_pure ?_
    rw [NamesCollected, schemaNames_withNullable]
    exact namesOfAll_subset hmembers
  · refine Body.ensures_bind (ensures_atParts _ _ _) fun t ht => Body.ensures_pure ?_
    rw [NamesCollected, schemaNames_withNullable]
    exact ht

/-- The types that the structural encoder makes name only collected schemas. -/
theorem schemaNames_structural_subset {t : TypeDescriptor}
    (h : structural document names p = .ok t) : t.schemaNames ⊆ names.values :=
  Recursion.ensures (c := ([], p)) computes_encodeFrom guarded_recursion ensures_recursion h

end Encoder

end ClientPlan
