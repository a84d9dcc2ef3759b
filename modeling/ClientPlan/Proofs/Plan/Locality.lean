import ClientPlan.Proofs.Api.Agreement
import ClientPlan.Proofs.Api.Recorded
import ClientPlan.Proofs.Plan.Run
import ClientPlan.Proofs.Schema.Agreement

/-!
# Plans from documents that agree

A plan looks at the document of its description only through references.  So it comes to the same
with another document, if the two agree on the references that can be met in the schemas of the
description (`result_withDocument`).
-/

set_option autoImplicit false

namespace ClientPlan

/-! ## What is met -/

section met

variable {s : Setting} {good : Position → Prop} {f f' : Found} {p q m : Position}
  {more : List Position} {declared : Option String}

/-- What references and parts inherit passes to what a position stands for. -/
theorem Position.Inherited.of_standsFor (hgood : Position.Inherited s.api.document good)
    (hp : good p) (hq : s.StandsFor p q declared) : good q := by
  cases hq with
  | node hmap href => exact hp
  | reference href htarget hmap => exact hgood.reference hp href htarget

/-- What references and parts inherit passes to what a visit leaves. -/
theorem Position.Inherited.of_visits (hgood : Position.Inherited s.api.document good) (hp : good p)
    (h : s.Visits f p more f') : ∀ m ∈ more, good m := by
  have hbelow : ∀ {q declared}, s.StandsFor p q declared → ∀ m ∈ Setting.below q, good m := by
    intro q declared hq m hm
    have hplace := hgood.of_standsFor hp hq
    unfold Setting.below at hm
    split at hm
    · cases List.mem_singleton.1 hm
      exact hplace
    · next href =>
      have hnone : q.node.get? referenceKey = none := by simpa [Value.has] using href
      exact hgood.part hplace hnone (Position.mem_children_iff.1 hm)
  cases h with
  | notMap hmap => exact fun m hm => (List.not_mem_nil hm).elim
  | again hi hv => exact fun m hm => (List.not_mem_nil hm).elim
  | dead href hv htarget hmap => exact fun m hm => (List.not_mem_nil hm).elim
  | rejected hq hv hr hadmits => exact fun m hm => (List.not_mem_nil hm).elim
  | unplaced hq hplace => exact hbelow hq
  | unnamed hq hplace hv hname => exact hbelow hq
  | recorded hq hv hr hadmits => exact hbelow hq

/-- What references and parts inherit passes to what a visit leaves that is held up. -/
theorem Position.Inherited.of_unwritable (hgood : Position.Inherited s.api.document good)
    (hp : good p) {before : List Position} (h : s.visit f p = .error (.unwritable before f')) :
    ∀ m ∈ before, good m := by
  intro m hm
  obtain ⟨q, declared, hq, hplain, hpart⟩ := Setting.exists_place_of_visit h hm
  have hnone : q.node.get? referenceKey = none := by simpa [Value.has] using hplain
  exact hgood.part (hgood.of_standsFor hp hq) hnone (Position.mem_children_iff.1 hpart)

/-- What references and parts inherit from the schemas of endpoints holds of all that is met. -/
theorem Position.Inherited.of_meets (hgood : Position.Inherited s.api.document good)
    (hroot : ∀ e ∈ s.api.endpoints, ∀ p, e.HasSchema p → good p) (hp : s.Meets p) : good p := by
  induction hp with
  | root he hincluded hp => exact hroot _ he _ hp
  | chain hp hq hr href ih => exact hgood.of_standsFor ih hq
  | part hp hq hr href hm ih =>
    exact hgood.part (hgood.of_standsFor ih hq) (by simpa [Value.has] using href) hm

end met

/-- The schemas of an endpoint are recorded. -/
theorem Endpoint.HasSchema.records {api : Api} {e : Endpoint} {p : Position} (h : e.HasSchema p)
    (he : e ∈ api.endpoints) : api.Records p := by
  cases h with
  | body hb hm => exact .body he hb hm
  | response hr hc hm => exact .response he hr hc hm

/-- Recorded schemas refer within what the document does. -/
theorem Api.Records.refersWithin {within : String → Bool} {document : Value} {version : String}
    {api : Api} (hd : document.RefersWithin within) (hr : readApi document version = .ok api)
    {p : Position} (h : api.Records p) : p.RefersWithin within := by
  intro hmap
  obtain ⟨links, node, hread⟩ := h.exists_readAt hr hmap
  have hnode : node.RefersWithin within := hread.way.everyMap (p := ⟨node, p.pointer⟩)
    (fun entries ht e he => (refersWithin_iff.1 ht e he).1) hd
  exact hnode.mappingField hread.held

/-! ## Stages -/

namespace Setting

/-- The setting with another document. -/
def withDocument (s : Setting) (document : Value) : Setting :=
  { s with api := { s.api with document } }

section

variable {s : Setting} {within : String → Bool} {document : Value} {names : SchemaNames}
  (h : AgreeOn within s.api.document document)

include h

theorem visit_withDocument {p : Position} (hp : p.RefersWithin within) (f : Found) :
    (s.withDocument document).visit f p = s.visit f p := by
  unfold visit
  split
  · rfl
  next hmap =>
  split
  · rfl
  next r hr =>
  refine bind_congr_ok fun ref href => ?_
  cases Value.eq_str_of_reference (mapError_eq_ok.1 href)
  have hresolve := h.resolve_of_get? (hp (by simpa using hmap)) hr
  unfold visitReference
  rw [show (s.withDocument document).api.document = document from rfl, hresolve]
  rfl

/-- The same is discovered. -/
theorem discover_withDocument (hapi : ∀ p, s.api.Records p → p.RefersWithin within)
    (schemas : SchemaMap) :
    (s.withDocument document).discover schemas names = s.discover schemas names := by
  have hall : ∀ endpoints : List Endpoint, endpoints ⊆ s.api.endpoints → ∀ f,
      (s.withDocument document).discoverAll endpoints f = s.discoverAll endpoints f := by
    intro endpoints hsub
    induction endpoints with
    | nil => exact fun f => rfl
    | cons e r ih =>
      intro f
      obtain ⟨he, hr⟩ := List.cons_subset.1 hsub
      have hwork : ∀ p ∈ e.schemaPositions, p.RefersWithin within := fun p hp =>
        hapi p ((Endpoint.mem_schemaPositions_iff.1 hp).records he)
      rw [discoverAll, discoverAll,
        discoverFrom_congr (fun f p hp => visit_withDocument h hp f)
          (Position.inherited_refersWithin h).of_visits
          (fun hp => (Position.inherited_refersWithin h).of_unwritable hp) hwork]
      simp only [ih hr]
      rfl
  exact hall s.api.endpoints (List.Subset.refl _) _

/-- A position has the same type. -/
theorem typeOf_withDocument (hs : s.encoder = .structural) {p : Position}
    (hp : p.RefersWithin within) :
    (s.withDocument document).typeOf names p = s.typeOf names p := by
  rw [typeOf, typeOf, show (s.withDocument document).encoder = .structural from hs, hs]
  exact Encoder.structural_eq h hp

theorem fieldsOf_withDocument (hs : s.encoder = .structural) {schema : Schema}
    (hp : schema.position.RefersWithin within) :
    (s.withDocument document).fieldsOf names schema = s.fieldsOf names schema := by
  rw [fieldsOf, fieldsOf, show (s.withDocument document).api.document = document from rfl,
    Declaration.ofSchema_eq h hp]
  refine bind_congr_ok fun declarations hdeclarations => mapM_congr fun d hd => ?_
  have hd := Declaration.good_of_ofSchema (Position.inherited_refersWithin h) hp hdeclarations d hd
  rw [fieldOf, fieldOf, typeOf_withDocument h hs hd]

/-- What is discovered is described alike. -/
theorem describe_withDocument (hs : s.encoder = .structural)
    (hapi : ∀ p, s.api.Records p → p.RefersWithin within) {f : Found}
    (hf : s.discover OrderedMap.empty OrderedMap.empty = .ok f) :
    (s.withDocument document).describe f.schemas names = s.describe f.schemas names := by
  obtain ⟨log, hlog⟩ := recorded_of_discover hf
  refine OrderedMap.traverse_congr fun name schema hschema => ?_
  obtain ⟨p, q, declared, hp, hq, -, -, hnode⟩ := hlog.node_eq hschema
  have hgood := Position.inherited_refersWithin h
  have hmet : p.RefersWithin within :=
    hgood.of_meets (fun e he p hp => hapi p (hp.records he)) hp
  have hplace := hgood.of_standsFor hmet hq hq.isMap
  rw [fieldsOf_withDocument h hs fun _ => hplace.mappingField hnode]

/-! ## Operations -/

theorem paramOf_withDocument (hs : s.encoder = .structural) {parameter : Parameter}
    (hp : parameter.position.RefersWithin within) (location : Location) :
    (s.withDocument document).paramOf names location parameter =
      s.paramOf names location parameter := by
  rw [paramOf, paramOf, typeOf_withDocument h hs hp]

theorem classify_withDocument (hs : s.encoder = .structural) {parameters : List Parameter}
    (hp : ∀ parameter ∈ parameters, parameter.position.RefersWithin within) (path : String)
    (operationId : Option String) :
    (s.withDocument document).classify names path parameters operationId =
      s.classify names path parameters operationId := by
  have hpath : ∀ placeholder, (s.withDocument document).pathParam names path parameters operationId
      placeholder = s.pathParam names path parameters operationId placeholder := by
    intro placeholder
    unfold pathParam
    split
    · rfl
    · next parameter hfound =>
      exact paramOf_withDocument h hs (hp parameter (mem_of_parameterFor? hfound)) _
  have hquery : ∀ parameter ∈ parameters.filter fun p => p.location == .query,
      (s.withDocument document).paramOf names .query parameter = s.paramOf names .query parameter :=
    fun parameter hm => paramOf_withDocument h hs (hp parameter (List.mem_filter.1 hm).1) _
  rw [classify, classify, mapM_congr fun placeholder _ => hpath placeholder, mapM_congr hquery]

theorem bodyTypes_withDocument (hs : s.encoder = .structural) {e : Endpoint}
    (hm : ∀ m ∈ s.policy.requestBody e, m.position.RefersWithin within) :
    (s.withDocument document).bodyTypes names e = s.bodyTypes names e := by
  rw [bodyTypes, bodyTypes, show (s.withDocument document).policy = s.policy from rfl,
    mapM_congr fun m hm' => by rw [typeOf_withDocument h hs (hm m hm')]]

theorem responseType_withDocument (hs : s.encoder = .structural) {r : Response}
    (hr : ∀ c, r.content = some c → ∀ t m, c.get? t = some m → m.position.RefersWithin within) :
    (s.withDocument document).responseType names r = s.responseType names r := by
  unfold responseType
  split
  · rfl
  next c hc =>
  split
  · rfl
  split
  · rfl
  next m hm => rw [typeOf_withDocument h hs (hr c hc _ m hm)]

/-- The operations of an endpoint are the same. -/
theorem operationsOf_withDocument (hs : s.encoder = .structural) (hpolicy : s.policy = .standard)
    (hapi : ∀ p, s.api.Records p → p.RefersWithin within) {e : Endpoint}
    (he : e ∈ s.api.endpoints) :
    (s.withDocument document).operationsOf names e = s.operationsOf names e := by
  have hbody : ∀ m ∈ s.policy.requestBody e, m.position.RefersWithin within := by
    intro m hm
    rw [hpolicy] at hm
    have hm : m ∈ (e.requestBody.map fun b => b.content.values).getD [] := hm
    cases hb : e.requestBody with
    | none =>
      rw [hb] at hm
      cases hm
    | some b =>
      rw [hb] at hm
      obtain ⟨t, hm⟩ := OrderedMap.mem_values_iff.1 hm
      exact hapi _ (.body he hb hm)
  have hparameters : ∀ parameter ∈ mergeParameters e.pathParameters e.parameters,
      parameter.position.RefersWithin within := by
    intro parameter hm
    rcases List.mem_append.1 hm with hm | hm
    · exact hapi _ (.inherited he (List.mem_filter.1 hm).1)
    · exact hapi _ (.own he hm)
  have hresponses : (s.withDocument document).responseTypes names e = s.responseTypes names e :=
    OrderedMap.traverse_congr fun status r hr => responseType_withDocument h hs
      fun c hc t m hm => hapi _ (.response he hr hc hm)
  rw [operationsOf, operationsOf, bodyTypes_withDocument h hs hbody, hresponses,
    classify_withDocument h hs hparameters]
  rfl

theorem operations_withDocument (hs : s.encoder = .structural) (hpolicy : s.policy = .standard)
    (hapi : ∀ p, s.api.Records p → p.RefersWithin within) :
    (s.withDocument document).operations names = s.operations names := by
  have hall : ∀ endpoints : List Endpoint, endpoints ⊆ s.api.endpoints →
      (s.withDocument document).operationsOfAll names endpoints =
        s.operationsOfAll names endpoints := by
    intro endpoints hsub
    induction endpoints with
    | nil => rfl
    | cons e r ih =>
      obtain ⟨he, hr⟩ := List.cons_subset.1 hsub
      rw [operationsOfAll, operationsOfAll, operationsOf_withDocument h hs hpolicy hapi he, ih hr]
      rfl
  exact hall s.api.endpoints (List.Subset.refl _)

/-- A plan comes to the same. -/
theorem result_withDocument (hs : s.encoder = .structural) (hpolicy : s.policy = .standard)
    (hapi : ∀ p, s.api.Records p → p.RefersWithin within) :
    PlanState.result <$> (s.withDocument document).start.run =
      PlanState.result <$> s.start.run := by
  rw [result_run, result_run, discover_withDocument h hapi]
  refine Logged.ofExcept_bind_congr fun found hfound => ?_
  rw [describe_withDocument h hs hapi hfound]
  refine Logged.ofExcept_bind_congr fun schemas _ => ?_
  rw [operations_withDocument h hs hpolicy hapi]
  rfl

end

end Setting

end ClientPlan
