import ClientPlan.Proofs.Document.OctetKeys
import ClientPlan.Proofs.Pointer.Chain
import ClientPlan.Proofs.Recursion.InStep
import ClientPlan.Proofs.Schema.Flattening

/-!
# Aliases of schemas

Flattening remembers the references and members on the way, so that it ends.
`Declaration.DrawsOn` says which positions it comes to if it remembers nothing, and
`Declaration.Inherits` which references it follows there.  As long as none of these is remembered,
the memory makes no difference.

Main statements: a chain of references declares what its end does, if none of its references is
followed again from the end (`ofSchema_of_leads`); a schema declares the same as a field holds it, if
no keys of octets are taken for keywords (`ofSchema_held`).
-/

set_option autoImplicit false

namespace ClientPlan

namespace Declaration

variable {document : Value} {seen seen' refs : List String} {start p q q' : Position}
  {ref : String}

/-! ## Positions that a schema is composed of -/

/-- From `start` flattening comes to a position, whatever it remembers. -/
inductive DrawsOn (document : Value) (start : Position) : Position → Prop where
  /-- It starts there. -/
  | start : DrawsOn document start start
  /-- A reference is followed. -/
  | reference {q : Position} {ref : String} {target : Value} (h : DrawsOn document start q)
      (href : q.node.get? referenceKey = some (.str ref))
      (htarget : Pointer.resolve document ref = .ok target) : DrawsOn document start ⟨target, ref⟩
  /-- A schema that is no reference has the properties of the members of `allOf`. -/
  | member {q : Position} {members : List Value} {i : Nat} {m : Value}
      (h : DrawsOn document start q) (href : q.node.get? referenceKey = none)
      (hmembers : allOfMembers q.node = .ok members) (hm : members[i]? = some m) :
      DrawsOn document start ⟨m, Pointer.item q.pointer "allOf" i⟩

theorem DrawsOn.trans (h : DrawsOn document start q) (h' : DrawsOn document q q') :
    DrawsOn document start q' := by
  induction h' with
  | start => exact h
  | reference _ href htarget ih => exact ih.reference href htarget
  | member _ href hmembers hm ih => exact ih.member href hmembers hm

/-- A reference that a schema inherits from, directly or through others. -/
def Inherits (document : Value) (p : Position) (ref : String) : Prop :=
  ∃ q, DrawsOn document p q ∧ q.node.get? referenceKey = some (.str ref)

/-- What is inherited from below is inherited. -/
theorem Inherits.of_drawsOn (h : DrawsOn document p q) (hq : Inherits document q ref) :
    Inherits document p ref := by
  obtain ⟨m, hm, href⟩ := hq
  exact ⟨m, h.trans hm, href⟩

/-- All that flattening comes to from a reference, but the reference itself, it comes to from the
target. -/
theorem DrawsOn.of_reference {target : Value} (href : p.node.get? referenceKey = some (.str ref))
    (htarget : Pointer.resolve document ref = .ok target) (h : DrawsOn document p q) :
    q = p ∨ DrawsOn document ⟨target, ref⟩ q := by
  induction h with
  | start => exact .inl rfl
  | reference _ href' htarget' ih =>
    rcases ih with rfl | ih
    · cases href.symm.trans href'
      cases htarget.symm.trans htarget'
      exact .inr .start
    · exact .inr (ih.reference href' htarget')
  | member _ hnone hmembers hm ih =>
    rcases ih with rfl | ih
    · cases href.symm.trans hnone
    · exact .inr (ih.member hnone hmembers hm)

/-- A chain inherits from its references, and besides these from what its end does. -/
theorem Inherits.of_leads (h : p.Leads document refs q) (hp : Inherits document p ref) :
    ref ∈ refs ∨ Inherits document q ref := by
  induction h with
  | here _ => exact .inr hp
  | follow href htarget _ ih =>
    obtain ⟨m, hm, hmref⟩ := hp
    rcases hm.of_reference href htarget with rfl | hm
    · cases href.symm.trans hmref
      exact .inl List.mem_cons_self
    · exact (ih ⟨m, hm, hmref⟩).imp_left (List.mem_cons_of_mem _)

/-! ## The memory of flattening -/

/-- Two calls at one position that remember the same of the references that are inherited from. -/
abbrev AlikeAt (document : Value) := Recursion.Alike (Inherits document)

/-- A reference at a position that is come to is followed under both memories or under none. -/
theorem inStep_atReference {r : Value} (hq : DrawsOn document p q)
    (hr : q.node.get? referenceKey = some r) (h : AlikeAt document (seen, p) (seen', p)) :
    (atReference document seen r).InStep (AlikeAt document) (atReference document seen' r) := by
  refine .ends_bind fun ref href => ?_
  cases Value.eq_str_of_soughtReference href
  have hmem := h.seen ref ⟨q, hq, hr⟩
  by_cases hseen : ref ∈ seen
  · rw [if_pos hseen, if_pos (hmem.1 hseen)]
    exact .pure _
  · rw [if_neg hseen, if_neg fun hseen' => hseen (hmem.2 hseen')]
    refine .ends_bind fun target htarget => .call ?_
    have hdraws := hq.reference hr (mapError_eq_ok.1 htarget)
    exact h.next (fun _ hinherits => hinherits.of_drawsOn hdraws) [ref]

theorem inStep_atMember {members : List Value} {m : Value} {i : Nat}
    (hnone : p.node.get? referenceKey = none) (hmembers : allOfMembers p.node = .ok members)
    (hm : members[i]? = some m) (h : AlikeAt document (seen, p) (seen', p)) :
    (atMember document seen p.pointer m i).InStep (AlikeAt document)
      (atMember document seen' p.pointer m i) := by
  have hdraws : DrawsOn document p ⟨m, Pointer.item p.pointer "allOf" i⟩ :=
    .member .start hnone hmembers hm
  unfold atMember
  split
  · exact .call (h.next (fun _ hinherits => hinherits.of_drawsOn hdraws) [_])
  · next r hr => exact inStep_atReference hdraws hr h

/-- Flattening does the same under memories that agree on what is inherited from. -/
theorem inStep_recursion (h : AlikeAt document (seen, p) (seen', p)) :
    (recursion document (seen, p)).InStep (AlikeAt document) (recursion document (seen', p)) := by
  unfold recursion
  dsimp only
  split
  · exact .pure _
  split
  · next r hr => exact inStep_atReference .start hr h
  next hnone =>
  refine .ends_bind fun members hmembers => ?_
  refine Body.InStep.bind (.mapM ?_) fun inherited => ?_
  · rintro ⟨m, i⟩ hm
    exact inStep_atMember hnone hmembers (List.mem_zipIdx_iff_getElem?.1 hm) h
  · exact .ends_bind fun required _ => .pure _

/-- References that are remembered make no difference if none of them is inherited from. -/
theorem collect_of_disjoint (h : ∀ ref ∈ seen, ¬ Inherits document p ref) :
    collect document seen p = ofSchema document p :=
  Recursion.eq_of_disjoint computes_collect guarded_recursion
    (fun _ _ _ halike => inStep_recursion halike) h

/-! ## Chains of references -/

/-- A reference declares what its target does while the reference is being followed. -/
theorem ofSchema_reference {target : Value} (href : p.node.get? referenceKey = some (.str ref))
    (htarget : Pointer.resolve document ref = .ok target) :
    ofSchema document p = collect document [ref] ⟨target, ref⟩ := by
  have hmap : ¬ (!p.node.isMap) = true := by rw [Value.isMap_of_get? href]; decide
  have hcall : recursion document ([], p) = .call (some ref) ([ref], ⟨target, ref⟩) := by
    rw [recursion, if_neg hmap, href]
    show (Body.ends ((Pointer.resolve document ref).mapError .document) >>= _) = _
    rw [htarget]
    rfl
  have hvalue : collect document [] p = (recursion document ([], p)).value (answer document) :=
    computes_collect ([], p)
  rw [hcall, Body.value_call] at hvalue
  exact hvalue

/-- A chain of references declares what its end declares, if the end inherits from none of them. -/
theorem ofSchema_of_leads (h : p.Leads document refs q)
    (hrefs : ∀ ref ∈ refs, ¬ Inherits document q ref) :
    ofSchema document p = ofSchema document q := by
  induction h with
  | here _ => rfl
  | @follow p q ref target refs href htarget h ih =>
    obtain ⟨hfirst, hrest⟩ := List.forall_mem_cons.1 hrefs
    -- The rest of the chain does not come back to its first reference, and neither does its end.
    have hback : ¬ Inherits document ⟨target, ref⟩ ref := fun hinherits =>
      (hinherits.of_leads h).elim (List.nodup_cons.1 (h.follow href htarget).nodup).1 hfirst
    calc ofSchema document p
        = collect document [ref] ⟨target, ref⟩ := ofSchema_reference href htarget
      _ = ofSchema document ⟨target, ref⟩ :=
        collect_of_disjoint (List.forall_mem_singleton.2 hback)
      _ = ofSchema document q := ih hrest

/-! ## Held schemas -/

/-- The keywords that flattening looks at. -/
def keywords : List String := [referenceKey, "allOf", "properties", "required"]

/-- Mappings that agree at the keywords declare the same. -/
theorem ofSchema_congr {node node' : Value} {pointer : String} (hmap : node.isMap = node'.isMap)
    (hkeys : ∀ key ∈ keywords, node.get? key = node'.get? key) :
    ofSchema document ⟨node, pointer⟩ = ofSchema document ⟨node', pointer⟩ := by
  have hreference : node.get? referenceKey = node'.get? referenceKey := hkeys _ (by decide)
  have hmembers : node.get? "allOf" = node'.get? "allOf" := hkeys _ (by decide)
  have hproperties : node.get? "properties" = node'.get? "properties" := hkeys _ (by decide)
  have hrequired : node.get? "required" = node'.get? "required" := hkeys _ (by decide)
  have hrecursion :
      recursion document ([], ⟨node, pointer⟩) = recursion document ([], ⟨node', pointer⟩) := by
    simp only [recursion, allOfMembers, listAt?, requiredNames, own, hmap, hreference, hmembers,
      hproperties, hrequired]
  calc ofSchema document ⟨node, pointer⟩
      = (recursion document ([], ⟨node, pointer⟩)).value (answer document) :=
        computes_collect ([], _)
    _ = (recursion document ([], ⟨node', pointer⟩)).value (answer document) := by rw [hrecursion]
    _ = ofSchema document ⟨node', pointer⟩ := (computes_collect ([], _)).symm

section

variable {name pointer : String} {body node : Value} (h : mappingField name body = .ok node)
  (hbody : body.everyMap distinctTexts = true)

include h hbody

/-- A schema as a field holds it declares what the schema does, if no octets are taken for one of the
keywords. -/
theorem ofSchema_held (hkeys : ∀ key ∈ keywords, body.SpellsAsText key) :
    ofSchema document ⟨node, pointer⟩ = ofSchema document ⟨body, pointer⟩ :=
  ofSchema_congr (isMap_eq_of_mappingField h) fun key hkey =>
    get?_eq_of_mappingField h hbody (hkeys key hkey)

/-- A reference as a field holds it declares what the reference does, if no octets are taken for its
key. -/
theorem ofSchema_held_reference {target : Value} (href : body.get? referenceKey = some (.str ref))
    (htarget : Pointer.resolve document ref = .ok target) (hkey : body.SpellsAsText referenceKey) :
    ofSchema document ⟨node, pointer⟩ = ofSchema document ⟨body, pointer⟩ := by
  have hheld : node.get? referenceKey = some (.str ref) :=
    (get?_eq_of_mappingField h hbody hkey).trans href
  exact (ofSchema_reference hheld htarget).trans (ofSchema_reference href htarget).symm

/-- The start of a chain as a field holds it declares what the start does, if no octets are taken for
what is looked at there. -/
theorem ofSchema_held_of_leads (hleads : Position.Leads document ⟨body, pointer⟩ refs q)
    (hkey : body.SpellsAsText referenceKey) (hkeys : ∀ key ∈ keywords, q.node.SpellsAsText key) :
    ofSchema document ⟨node, pointer⟩ = ofSchema document ⟨body, pointer⟩ := by
  cases hleads with
  | here _ => exact ofSchema_held h hbody hkeys
  | follow href htarget _ => exact ofSchema_held_reference h hbody href htarget hkey

end

end Declaration

end ClientPlan
