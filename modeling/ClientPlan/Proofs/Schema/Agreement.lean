import ClientPlan.Proofs.Document.Agreement
import ClientPlan.Proofs.Schema.Following

/-!
# Schemas in documents that agree

Flattening and encoding look at a document only through the references that they follow, so a schema
that refers within some references comes to the same in all documents that agree on them
(`ofSchema_eq`, `structural_eq`).
-/

set_option autoImplicit false

namespace ClientPlan

variable {within : String → Bool} {document document' : Value}

/-- What references and parts lead to refers within the same. -/
theorem Position.inherited_refersWithin (h : AgreeOn within document document') :
    Position.Inherited document (Position.RefersWithin within) where
  reference hp hr ht _ := h.closed_of_get? (hp (Value.isMap_of_get? hr)) hr ht
  part hp _ hm _ := hm.everyMap (hp hm.isMap)

/-! ## Flattening -/

namespace Declaration

theorem atReference_eq (h : AgreeOn within document document') {node r : Value}
    (hv : node.RefersWithin within) (hr : node.get? referenceKey = some r) (seen : List String) :
    atReference document' seen r = atReference document seen r := by
  unfold atReference
  refine Body.ends_bind_congr fun ref href => ?_
  cases Value.eq_str_of_soughtReference href
  rw [h.resolve_of_get? hv hr]

theorem refersWithin_of_calls_atReference (h : AgreeOn within document document') {node r : Value}
    (hv : node.RefersWithin within) (hr : node.get? referenceKey = some r) {seen : List String}
    {followed : Option String} {c : List String × Position}
    (hc : (atReference document seen r).Calls followed c) : c.2.RefersWithin within := by
  obtain ⟨ref, target, rfl, -, ht, -, rfl⟩ := calls_atReference hc
  exact fun _ => h.closed_of_get? hv hr ht

theorem recursion_eq (h : AgreeOn within document document') {p : Position}
    (hp : p.RefersWithin within) (seen : List String) :
    recursion document' (seen, p) = recursion document (seen, p) := by
  unfold recursion
  dsimp only
  split
  · rfl
  next hmap =>
  have hv := hp (by simpa using hmap)
  split
  · next r hr => exact atReference_eq h hv hr seen
  · refine Body.ends_bind_congr fun members hmembers => congrArg (· >>= _) (mapM_congr ?_)
    rintro ⟨m, i⟩ hm
    have hm := List.mem_of_getElem? (List.mem_zipIdx_iff_getElem?.1 hm)
    dsimp only
    unfold atMember
    split
    · rfl
    · next r hr =>
      exact atReference_eq h ((hv.get? (get?_of_allOfMembers hmembers hm)).mem hm) hr seen

theorem refersWithin_of_calls (h : AgreeOn within document document') {seen : List String}
    {p : Position} (hp : p.RefersWithin within) {followed : Option String}
    {c : List String × Position} (hc : (recursion document (seen, p)).Calls followed c) :
    c.2.RefersWithin within := by
  unfold recursion at hc
  dsimp only at hc
  split at hc
  · cases hc
  next hmap =>
  have hv := hp (by simpa using hmap)
  split at hc
  · next r hr => exact refersWithin_of_calls_atReference h hv hr hc
  obtain ⟨members, hmembers, hc⟩ := Body.calls_ends_bind hc
  rcases Body.calls_bind hc with hc | ⟨inherited, hc⟩
  · obtain ⟨⟨m, i⟩, hm, hc⟩ := Body.calls_mapM hc
    have hm := List.mem_of_getElem? (List.mem_zipIdx_iff_getElem?.1 hm)
    have hmember := (hv.get? (get?_of_allOfMembers hmembers hm)).mem hm
    unfold atMember at hc
    split at hc
    · obtain ⟨-, rfl⟩ := Body.calls_call hc
      exact fun _ => hmember
    · next r hr => exact refersWithin_of_calls_atReference h hmember hr hc
  · -- Nothing is called once all members have been collected.
    obtain ⟨required, -, hc⟩ := Body.calls_ends_bind hc
    cases hc

/-- A schema declares the same properties in both documents. -/
theorem ofSchema_eq (h : AgreeOn within document document') {p : Position}
    (hp : p.RefersWithin within) : ofSchema document' p = ofSchema document p :=
  Recursion.agrees (c := ([], p)) (Q := fun c => c.2.RefersWithin within) computes_collect
    computes_collect guarded_recursion (fun c hc => recursion_eq h hc c.1)
    (fun _ _ _ hc hcall => refersWithin_of_calls h hc hcall) hp

end Declaration

/-! ## Encoding -/

namespace Encoder

variable {names : SchemaNames}

theorem atReference_eq (h : AgreeOn within document document') {node r : Value}
    (hv : node.RefersWithin within) (hr : node.get? referenceKey = some r) (seen : List String) :
    atReference document' names seen r = atReference document names seen r := by
  unfold atReference
  split
  · rfl
  split
  · rfl
  refine Body.ends_bind_congr fun ref href => ?_
  cases Value.eq_str_of_reference href
  rw [h.resolve_of_get? hv hr]

theorem recursion_eq (h : AgreeOn within document document') {p : Position}
    (hp : p.RefersWithin within) (seen : List String) :
    recursion document' names (seen, p) = recursion document names (seen, p) := by
  unfold recursion
  dsimp only
  split
  · rfl
  next hmap =>
  split
  · next r hr => exact atReference_eq h (hp (by simpa using hmap)) hr seen
  · rfl

theorem refersWithin_of_calls (h : AgreeOn within document document') {seen : List String}
    {p : Position} (hp : p.RefersWithin within) {followed : Option String}
    {c : List String × Position} (hc : (recursion document names (seen, p)).Calls followed c) :
    c.2.RefersWithin within := by
  rcases calls_recursion hc with ⟨ref, target, hr, -, -, ht, -, rfl⟩ |
    ⟨hnone, -, -, ⟨-, t, ht, rfl⟩ | ⟨-, m, hm, rfl⟩⟩
  · exact (Position.inherited_refersWithin h).reference hp hr ht
  · have ht := (List.mem_filter.1 ht).1
    intro hmap
    refine (hp ?_).withType ht
    cases hnode : p.node with
    | map entries => rfl
    | _ =>
      rw [hnode] at hmap
      cases hmap
  · obtain ⟨part, hpart, hnode⟩ := exists_part_of_mem_parts (m := p) (fun _ _ => rfl) hm
    have hrefers := (Position.inherited_refersWithin h).part hp hnone hpart
    rwa [Position.RefersWithin, hnode] at hrefers

/-- A schema is encoded alike in both documents. -/
theorem structural_eq (h : AgreeOn within document document') {p : Position}
    (hp : p.RefersWithin within) : structural document' names p = structural document names p :=
  Recursion.agrees (c := ([], p)) (Q := fun c => c.2.RefersWithin within) computes_encodeFrom
    computes_encodeFrom guarded_recursion (fun c hc => recursion_eq h hc c.1)
    (fun _ _ _ hc hcall => refersWithin_of_calls h hc hcall) hp

end Encoder

end ClientPlan
