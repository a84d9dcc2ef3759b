import ClientPlan.Proofs.Recursion.InStep
import ClientPlan.Proofs.Schema.Encoding

/-!
# Uncollected references are transparent

The structural encoder remembers the references that it is following, so that it ends.
`Encoder.Descends` says which positions it may come to if it remembers nothing, and
`Encoder.MeetsUncollected` which references that name no collected schema.  As long as none of these
is remembered, the memory makes no difference.

Main statement: a reference that names no collected schema, and that is not met again below its
target, has the type of its target (`structural_of_uncollected`).
-/

set_option autoImplicit false

namespace ClientPlan

namespace Encoder

variable {document : Value} {names : SchemaNames} {seen seen' : List String}
  {start p q q' : Position} {ref : String}

/-! ## Positions below a schema -/

/-- From `start` the encoder may come to a position, whatever it remembers. -/
inductive Descends (document : Value) (names : SchemaNames) (start : Position) :
    Position → Prop where
  /-- It starts there. -/
  | start : Descends document names start start
  /-- A reference that names no collected schema is followed. -/
  | reference {q : Position} {ref : String} {target : Value} (h : Descends document names start q)
      (href : q.node.get? referenceKey = some (.str ref)) (hname : names.get? ref = none)
      (htarget : Pointer.resolve document ref = .ok target) :
      Descends document names start ⟨target, ref⟩
  /-- A schema with several types is encoded with each of them. -/
  | alternative {q : Position} {t : Value} (h : Descends document names start q)
      (href : q.node.get? referenceKey = none) (hname : nameAt? names q.pointer = none)
      (hseveral : HasAlternatives q.node) (ht : t ∈ alternatives (typeList q.node)) :
      Descends document names start ⟨withType q.node t, ""⟩
  /-- Any other schema without a name is encoded by its parts. -/
  | part {q m : Position} (h : Descends document names start q)
      (href : q.node.get? referenceKey = none) (hname : nameAt? names q.pointer = none)
      (hone : ¬ HasAlternatives q.node)
      (hm : m ∈ (outline q.node (oneType q.node) q.pointer).parts) :
      Descends document names start m

theorem Descends.trans (h : Descends document names start q)
    (h' : Descends document names q q') : Descends document names start q' := by
  induction h' with
  | start => exact h
  | reference _ href hname htarget ih => exact ih.reference href hname htarget
  | alternative _ href hname hseveral ht ih => exact ih.alternative href hname hseveral ht
  | part _ href hname hone hm ih => exact ih.part href hname hone hm

/-- From a position the encoder may come to a reference that names no collected schema. -/
def MeetsUncollected (document : Value) (names : SchemaNames) (p : Position) (ref : String) :
    Prop :=
  ∃ q, Descends document names p q ∧ q.node.get? referenceKey = some (.str ref) ∧
    names.get? ref = none

/-- What is met below is met. -/
theorem MeetsUncollected.of_descends (h : Descends document names p q)
    (hq : MeetsUncollected document names q ref) : MeetsUncollected document names p ref := by
  obtain ⟨m, hm, href, hname⟩ := hq
  exact ⟨m, h.trans hm, href, hname⟩

/-- Only references of the document or of the position are met. -/
theorem MeetsUncollected.mem_reachable (h : MeetsUncollected document names p ref) :
    ref ∈ Pointer.reachable document p.node := by
  have hdescends {q : Position} (hq : Descends document names p q) :
      Pointer.reachable document q.node ⊆ Pointer.reachable document p.node := by
    induction hq with
    | start => exact List.Subset.refl _
    | reference _ _ _ htarget ih =>
      exact List.Subset.trans (Pointer.reachable_subset_of_resolve htarget) ih
    | alternative _ _ _ _ ht ih =>
      exact List.Subset.trans (reachable_subset_of_isPart (isPart_of_mem_alternatives rfl ht)) ih
    | part _ _ _ _ hm ih =>
      exact List.Subset.trans (reachable_subset_of_isPart (isPart_of_mem_parts rfl hm)) ih
  obtain ⟨q, hq, href, -⟩ := h
  exact hdescends hq (List.mem_append_right _ (Value.mem_references_of_get? href))

/-! ## The memory of the encoder -/

section

variable {S : List String × Position → List String × Position → Prop}

theorem inStep_atParts {o : Outline} (h : ∀ m ∈ o.parts, S (seen, m) (seen', m)) :
    (atParts seen o).InStep S (atParts seen' o) := by
  cases o with
  | union members => exact (Body.InStep.mapM fun m hm => .call (h m hm)).bind fun types => .pure _
  | only part => exact .call (h part List.mem_cons_self)
  | array items =>
    cases items with
    | none => exact .pure _
    | some m => exact (Body.InStep.call (h m List.mem_cons_self)).bind fun t => .pure _
  | map values =>
    cases values with
    | none => exact .pure _
    | some m => exact (Body.InStep.call (h m List.mem_cons_self)).bind fun t => .pure _
  | leaf t => exact .ends t

theorem inStep_atSchema
    (halternative : HasAlternatives p.node → ∀ t ∈ alternatives (typeList p.node),
      S (seen, ⟨withType p.node t, ""⟩) (seen', ⟨withType p.node t, ""⟩))
    (hpart : ¬ HasAlternatives p.node →
      ∀ m ∈ (outline p.node (oneType p.node) p.pointer).parts, S (seen, m) (seen', m)) :
    (atSchema seen p).InStep S (atSchema seen' p) := by
  by_cases hseveral : HasAlternatives p.node
  · have ht := halternative hseveral
    obtain ⟨t, u, rest, hl⟩ := hasAlternatives_iff.1 hseveral
    rw [hl] at ht
    rw [atSchema, atSchema, hl]
    exact (Body.InStep.mapM fun t hmem => .call (ht t hmem)).bind fun members => .pure _
  · have hone : ∀ t u rest, alternatives (typeList p.node) = t :: u :: rest → False :=
      fun t u rest hl => hseveral (hasAlternatives_iff.2 ⟨t, u, rest, hl⟩)
    rw [atSchema_of_forall hone, atSchema_of_forall hone]
    exact (inStep_atParts (hpart hseveral)).bind fun t => .pure _

end

/-- Two calls at one position that remember the same of the references that may be met. -/
abbrev AlikeAt (document : Value) (names : SchemaNames) :=
  Recursion.Alike (MeetsUncollected document names)

theorem inStep_atReference {r : Value} (hr : p.node.get? referenceKey = some r)
    (h : AlikeAt document names (seen, p) (seen', p)) :
    (atReference document names seen r).InStep (AlikeAt document names)
      (atReference document names seen' r) := by
  unfold atReference
  split
  · exact .ends _
  split
  · exact .pure _
  next hname =>
  refine .ends_bind fun ref href => ?_
  cases Value.eq_str_of_reference href
  have hmem := h.seen ref ⟨p, .start, hr, hname⟩
  by_cases hseen : ref ∈ seen
  · rw [if_pos hseen, if_pos (hmem.1 hseen)]
    exact .pure _
  · rw [if_neg hseen, if_neg fun hseen' => hseen (hmem.2 hseen')]
    refine .ends_bind fun target htarget => .call ?_
    have hdescends : Descends document names p ⟨target, ref⟩ :=
      .reference .start hr hname (mapError_eq_ok.1 htarget)
    exact h.next (fun _ hmeets => hmeets.of_descends hdescends) [ref]

/-- The encoder does the same under memories that agree on what may be met. -/
theorem inStep_recursion (h : AlikeAt document names (seen, p) (seen', p)) :
    (recursion document names (seen, p)).InStep (AlikeAt document names)
      (recursion document names (seen', p)) := by
  unfold recursion
  dsimp only
  split
  · exact .pure _
  split
  · next r hr => exact inStep_atReference hr h
  next href =>
  split
  · exact .pure _
  next hname =>
  have hgo {q : Position} (hq : Descends document names p q) :
      AlikeAt document names (seen, q) (seen', q) :=
    h.next (fun _ hmeets => hmeets.of_descends hq) []
  refine inStep_atSchema (fun hseveral t ht => ?_) fun hone m hm => ?_
  · exact hgo (.alternative .start href hname hseveral ht)
  · exact hgo (.part .start href hname hone hm)

/-- References that are remembered make no difference if none of them may be met. -/
theorem encodeFrom_of_disjoint (h : ∀ ref ∈ seen, ¬ MeetsUncollected document names p ref) :
    encodeFrom document names seen p = structural document names p :=
  Recursion.eq_of_disjoint computes_encodeFrom guarded_recursion
    (fun _ _ _ halike => inStep_recursion halike) h

/-! ## Uncollected references -/

theorem atReference_eq_call {target : Value} (hname : names.get? ref = none) (hseen : ref ∉ seen)
    (htarget : Pointer.resolve document ref = .ok target) :
    atReference document names seen (.str ref) =
      .call (some ref) (ref :: seen, ⟨target, ref⟩) := by
  have hkey : ¬ (!(Value.str ref).isKey) = true := Bool.false_ne_true
  have hbind : (Value.str ref).text?.bind names.get? = none := hname
  rw [atReference, if_neg hkey, hbind]
  show (if ref ∈ seen then _ else _) = _
  rw [if_neg hseen, htarget]
  rfl

/-- A reference that names no collected schema is encoded as its target. -/
theorem encodeFrom_reference {target : Value} (href : p.node.get? referenceKey = some (.str ref))
    (hname : names.get? ref = none) (hseen : ref ∉ seen)
    (htarget : Pointer.resolve document ref = .ok target) :
    encodeFrom document names seen p = encodeFrom document names (ref :: seen) ⟨target, ref⟩ := by
  rw [← value_atReference href, atReference_eq_call hname hseen htarget, Body.value_call]

/-- A reference that names no collected schema has the type of its target wherever it stands, unless
it is met again below the target; it is not, if no reference is ever met while it is being followed.
Altogether, references that are remembered make no difference to the type of a schema unless one of
them is met from there. -/
theorem structural_of_uncollected (document : Value) (names : SchemaNames) :
    (∀ (p : Position) (ref : String) (target : Value),
      p.node.get? referenceKey = some (.str ref) → names.get? ref = none →
      Pointer.resolve document ref = .ok target →
      ¬ MeetsUncollected document names ⟨target, ref⟩ ref →
        structural document names p = structural document names ⟨target, ref⟩) ∧
    ∀ (p : Position) (seen : List String),
      (∀ ref ∈ seen, ¬ MeetsUncollected document names p ref) →
        encodeFrom document names seen p = structural document names p := by
  refine ⟨fun p ref target href hname htarget hmeets => ?_, fun p seen => encodeFrom_of_disjoint⟩
  calc structural document names p
      = encodeFrom document names [ref] ⟨target, ref⟩ :=
        encodeFrom_reference href hname List.not_mem_nil htarget
    _ = structural document names ⟨target, ref⟩ :=
        encodeFrom_of_disjoint (List.forall_mem_singleton.2 hmeets)

/-- Tags are a list of what another component says. -/
def tagsNode : Value :=
  .ofFields [("type", .str "array"),
    ("items", .ofFields [("$ref", .str "#/components/schemas/Tag")])]

/-- A document of tags. -/
def tagDocument : Value :=
  .ofFields [("components", .ofFields [("schemas", .ofFields [("Tags", tagsNode),
    ("Tag", .ofFields [("type", .str "string")])])])]

/-- Tags that are not collected are a list of texts, also where they are referred to. -/
theorem structural_tags :
    Pointer.resolve tagDocument "#/components/schemas/Tags" = .ok tagsNode ∧
    structural tagDocument .empty
      ⟨.ofFields [("$ref", .str "#/components/schemas/Tags")], "#/x"⟩ =
        structural tagDocument .empty ⟨tagsNode, "#/components/schemas/Tags"⟩ ∧
    encodeFrom tagDocument .empty ["#/components/schemas/Tags"]
      ⟨tagsNode, "#/components/schemas/Tags"⟩ =
        structural tagDocument .empty ⟨tagsNode, "#/components/schemas/Tags"⟩ ∧
    structural tagDocument .empty ⟨tagsNode, "#/components/schemas/Tags"⟩ =
      .ok (.array (.primitive "string" none)) := by
  have htarget : Pointer.resolve tagDocument "#/components/schemas/Tags" = .ok tagsNode := rfl
  have hmeets : ¬ MeetsUncollected tagDocument .empty ⟨tagsNode, "#/components/schemas/Tags"⟩
      "#/components/schemas/Tags" := by
    intro h
    have hmem := h.mem_reachable
    revert hmem
    decide
  obtain ⟨hreference, hmemory⟩ := structural_of_uncollected tagDocument .empty
  refine ⟨htarget, hreference _ _ _ rfl rfl htarget hmeets,
    hmemory _ _ (List.forall_mem_singleton.2 hmeets), ?_⟩
  exact Recursion.run_refines computes_encodeFrom 3 [] ([], _) _ rfl

end Encoder

end ClientPlan
