import ClientPlan.Proofs.Schema.Flattening
import ClientPlan.Proofs.Schema.Places
import ClientPlan.Proofs.Schema.TypeNames

/-!
# Where references can be followed

The structural encoder and the flattening of properties follow the references that they meet.  If
all references at some positions can be followed, and so can those at their targets and at their
parts, neither of the two fails for a reason that lies in the document
(`Encoder.elsewhere_of_structural`, `Declaration.elsewhere_of_ofSchema`).
-/

set_option autoImplicit false

namespace ClientPlan

/-! ## Failures that are none of the document -/

/-- The failure is not one of the document. -/
def Failure.Elsewhere (e : Failure) : Prop := e.category? ≠ some .document

theorem elsewhere_of_required {α : Type} {x : Checked α} {e : Failure}
    (h : x.required = .error e) : e.Elsewhere := by
  cases x with
  | error issues =>
    cases h
    nofun
  | ok a => cases h

theorem elsewhere_of_membersOf {v? : Option Value} {e : Failure} (h : membersOf v? = .error e) :
    e.Elsewhere := by
  unfold membersOf at h
  split at h
  · cases h
  · split at h
    · cases h
    · split at h
      all_goals cases h
      nofun

theorem elsewhere_of_leafType {node type : Value} {e : Failure}
    (h : leafType node type = .error e) : e.Elsewhere := by
  unfold leafType at h
  split at h
  · split at h
    · cases h
    split at h
    · exact elsewhere_of_required (map_eq_error.1 h)
    split at h
    · cases h
    · cases h
  · split at h
    · cases h
    · cases h
      nofun

namespace Declaration

theorem elsewhere_of_allOfMembers {node : Value} {e : Failure}
    (h : allOfMembers node = .error e) : e.Elsewhere := by
  unfold allOfMembers at h
  split at h
  · cases h
  · exact elsewhere_of_membersOf (map_eq_error.1 h)

theorem elsewhere_of_requiredNames {node : Value} {e : Failure}
    (h : requiredNames node = .error e) : e.Elsewhere := by
  rcases bind_eq_error.1 h with h | ⟨names, -, h⟩
  · exact elsewhere_of_membersOf h
  · split at h
    · cases h
    · cases h
      nofun

end Declaration

/-! ## References that can be followed -/

/-- The references at the positions with a property can be followed, and the property passes to what
they lead to and to parts. -/
structure Position.Followable (document : Value) (good : Position → Prop) : Prop
    extends Position.Inherited document good where
  /-- A reference resolves. -/
  resolves : ∀ {p : Position} {r : Value}, good p → p.node.get? referenceKey = some r →
    ∃ ref target, r = .str ref ∧ Pointer.resolve document ref = .ok target

variable {document : Value} {names : SchemaNames} {good : Position → Prop} {seen : List String}
  {p q m : Position}

/-! ## Flattening -/

namespace Declaration

theorem confined_atReference (hgood : Position.Followable document good) (hp : good p) {r : Value}
    (hr : p.node.get? referenceKey = some r) :
    (atReference document seen r).Confined Failure.Elsewhere fun c => good c.2 := by
  obtain ⟨ref, target, rfl, htarget⟩ := hgood.resolves hp hr
  unfold atReference
  refine Body.confined_ends_bind (fun e he => by cases he) fun ref' href => ?_
  cases Value.eq_str_of_soughtReference href
  split
  · exact Body.confined_pure
  · rw [htarget]
    exact Body.confined_ends_bind (fun e he => by cases he) fun target' h => by
      cases h
      exact Body.confined_call (hgood.reference hp hr htarget)

theorem confined_recursion (hgood : Position.Followable document good) (hp : good p) :
    (recursion document (seen, p)).Confined Failure.Elsewhere fun c => good c.2 := by
  unfold recursion
  dsimp only
  split
  · exact Body.confined_pure
  split
  · next r hr => exact confined_atReference hgood hp hr
  next hnone =>
  refine Body.confined_ends_bind (fun e he => elsewhere_of_allOfMembers he) fun members hm => ?_
  refine Body.confined_bind (Body.confined_mapM ?_) fun inherited => ?_
  · rintro ⟨v, i⟩ hv
    have hv : members[i]? = some v := List.mem_zipIdx_iff_getElem?.1 hv
    have hallOf := get?_of_allOfMembers hm (List.mem_of_getElem? hv)
    have hmember := hgood.part hp hnone (.member (by decide) hallOf hv)
    dsimp only
    unfold atMember
    split
    · exact Body.confined_call hmember
    · next r hr => exact confined_atReference hgood hmember hr
  · refine Body.confined_ends_bind (fun e he => elsewhere_of_requiredNames he) fun _ _ => ?_
    exact Body.confined_pure

/-- Where references can be followed, flattening does not fail for a reason in the document. -/
theorem elsewhere_of_ofSchema (hgood : Position.Followable document good) (hp : good p)
    {e : Failure} (h : ofSchema document p = .error e) : e.Elsewhere :=
  Recursion.fails (c := ([], p)) computes_collect guarded_recursion
    (fun _ hc => confined_recursion hgood hc) hp h

end Declaration

/-! ## Encoding -/

namespace Encoder

/-- Two nodes say the same at every keyword but that of the type. -/
def SameButType (v w : Value) : Prop := ∀ key, key ≠ "type" → v.get? key = w.get? key

/-- The node at a position is like one at a position with a property, but for its type. -/
def Resembles (good : Position → Prop) (q : Position) : Prop :=
  ∃ m, good m ∧ SameButType q.node m.node

theorem resembles_self (h : good p) : Resembles good p := ⟨p, h, fun _ _ => rfl⟩

theorem exists_part_of_members {node : Value} {keyword pointer : String} {members : List Value}
    (hk : keyword ∈ memberKeywords) (hl : listAt? node keyword = some members)
    (hm : SameButType node m.node) (hq : q ∈ memberPositions keyword pointer members) :
    ∃ part, m.Part part ∧ part.node = q.node := by
  have hne : ∀ k ∈ memberKeywords, k ≠ "type" := by decide
  obtain ⟨⟨v, i⟩, hv, rfl⟩ := List.mem_map.1 hq
  have hget := (hm keyword (hne keyword hk)).symm.trans (get?_of_listAt? hl)
  exact ⟨_, .member hk hget (List.mem_zipIdx_iff_getElem?.1 hv), rfl⟩

/-- The parts of an outline are parts of every schema that says the same but for its type. -/
theorem exists_part_of_mem_parts {node type : Value} {pointer : String}
    (hm : SameButType node m.node) (hq : q ∈ (outline node type pointer).parts) :
    ∃ part, m.Part part ∧ part.node = q.node := by
  unfold outline at hq
  split at hq
  · next hl => exact exists_part_of_members (by decide) hl hm hq
  · next hl => exact exists_part_of_members (by decide) hl hm hq
  · next hl => exact exists_part_of_members (by decide) hl hm hq
  · split at hq
    · obtain ⟨v, hv, rfl⟩ := Option.map_eq_some_iff.1 (Option.mem_toList.1 hq)
      exact ⟨_, .items ((hm "items" (by decide)).symm.trans hv), rfl⟩
    split at hq
    · obtain ⟨v, hv, rfl⟩ := Option.map_eq_some_iff.1 (Option.mem_toList.1 hq)
      have hget := (hm "additionalProperties" (by decide)).symm.trans (get?_of_mapAt? hv)
      unfold mapAt? at hv
      split at hv
      · cases hv
        exact ⟨_, .additional hget, rfl⟩
      · cases hv
    · cases hq

theorem confined_atReference (hgood : Position.Followable document good) (hm : good m) {r : Value}
    (hr : m.node.get? referenceKey = some r) :
    (atReference document names seen r).Confined Failure.Elsewhere fun c => Resembles good c.2 := by
  obtain ⟨ref, target, rfl, htarget⟩ := hgood.resolves hm hr
  unfold atReference
  split
  · intro e he
    cases he
    nofun
  split
  · exact Body.confined_pure
  refine Body.confined_ends_bind (fun e he => by cases he) fun ref' href => ?_
  cases Value.eq_str_of_reference href
  split
  · exact Body.confined_pure
  · rw [htarget]
    exact Body.confined_ends_bind (fun e he => by cases he) fun target' h => by
      cases h
      exact Body.confined_call (resembles_self (hgood.reference hm hr htarget))

theorem confined_atParts {o : Outline} (hleaf : ∀ r, o = .leaf r → ∀ e, r = .error e → e.Elsewhere)
    (hparts : ∀ q ∈ o.parts, Resembles good q) :
    (atParts seen o).Confined Failure.Elsewhere fun c => Resembles good c.2 := by
  cases o with
  | union members =>
    exact Body.confined_bind (Body.confined_mapM fun q hq => Body.confined_call (hparts q hq))
      fun types => Body.confined_pure
  | only part => exact Body.confined_call (hparts part List.mem_cons_self)
  | array items =>
    cases items with
    | none => exact Body.confined_pure
    | some items =>
      exact Body.confined_bind (Body.confined_call (hparts items List.mem_cons_self))
        fun t => Body.confined_pure
  | map values =>
    cases values with
    | none => exact Body.confined_pure
    | some values =>
      exact Body.confined_bind (Body.confined_call (hparts values List.mem_cons_self))
        fun t => Body.confined_pure
  | leaf r => exact hleaf r rfl

theorem confined_atSchema (hgood : Position.Followable document good) (hm : good m)
    (hnone : m.node.get? referenceKey = none) (hq : SameButType q.node m.node) :
    (atSchema seen q).Confined Failure.Elsewhere fun c => Resembles good c.2 := by
  unfold atSchema
  split
  · refine Body.confined_bind (Body.confined_mapM fun t _ => Body.confined_call ?_)
      fun members => Body.confined_pure
    exact ⟨m, hm, fun key hkey => (get?_withType hkey).trans (hq key hkey)⟩
  · refine Body.confined_bind (confined_atParts ?_ ?_) fun t => Body.confined_pure
    · intro r hr e he
      rw [eq_leafType_of_outline hr] at he
      exact elsewhere_of_leafType he
    · intro part hpart
      obtain ⟨part', hpart', hnode⟩ := exists_part_of_mem_parts hq hpart
      exact ⟨part', hgood.part hm hnone hpart', fun key _ => by rw [hnode]⟩

theorem confined_recursion (hgood : Position.Followable document good) (hq : Resembles good q) :
    (recursion document names (seen, q)).Confined Failure.Elsewhere
      fun c => Resembles good c.2 := by
  obtain ⟨m, hm, hsame⟩ := hq
  have href : q.node.get? referenceKey = m.node.get? referenceKey := hsame _ (by decide)
  unfold recursion
  dsimp only
  split
  · exact Body.confined_pure
  split
  · next r hr => exact confined_atReference hgood hm (href.symm.trans hr)
  split
  · exact Body.confined_pure
  · next hnone _ _ => exact confined_atSchema hgood hm (href.symm.trans hnone) hsame

/-- Where references can be followed, the structural encoder does not fail for a reason in the
document. -/
theorem elsewhere_of_structural (hgood : Position.Followable document good) (hp : good p)
    {e : Failure} (h : structural document names p = .error e) : e.Elsewhere :=
  Recursion.fails (c := ([], p)) computes_encodeFrom guarded_recursion
    (fun _ hc => confined_recursion hgood hc) (resembles_self hp) h

/-- A reference that cannot be followed makes the structural encoder fail as following it does,
unless it names a collected schema. -/
theorem structural_eq_error_of_dangling {ref : String} {e : DocumentError}
    (hr : p.node.get? referenceKey = some (.str ref)) (hname : names.get? ref = none)
    (htarget : Pointer.resolve document ref = .error e) :
    structural document names p = .error (.document e) := by
  have hkey : ¬ (!(Value.str ref).isKey) = true := Bool.false_ne_true
  have hunnamed : (Value.str ref).text?.bind names.get? = none := hname
  rw [structural, ← value_atReference hr, atReference, if_neg hkey, hunnamed]
  dsimp only
  rw [Body.value_bind, Body.value_ends]
  show Body.value _ (if ref ∈ [] then _ else _) = _
  rw [if_neg List.not_mem_nil, Body.value_bind, Body.value_ends, htarget]
  rfl

end Encoder

end ClientPlan
