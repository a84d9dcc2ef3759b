import ClientPlan.Proofs.Discovery.Order
import ClientPlan.Proofs.Plan.Bounded
import Mathlib.Data.List.Perm.Basic

/-!
# The order of request bodies

What a request body may hold is kept by content type, in an order that means nothing.  It is sorted
twice: before its schemas are visited and after its types are encoded.  Content types are distinct,
so both times the order in which they were given is lost, and a run comes to the same plan
(`result_eq_of_reorders`).
-/

set_option autoImplicit false

namespace ClientPlan

/-! ## Sorting by distinct keys -/

section sorting

variable {α β ε : Type} {l l' : List α}

/-- Items with distinct keys are sorted alike, in whatever order they are given. -/
theorem mergeSort_eq_of_perm (key : α → String) (h : l'.Perm l) (hkeys : (l.map key).Nodup) :
    l'.mergeSort (fun x y => decide (key x ≤ key y)) =
      l.mergeSort fun x y => decide (key x ≤ key y) := by
  let le : α → α → Bool := fun x y => decide (key x ≤ key y)
  have htrans : ∀ a b c : α, le a b = true → le b c = true → le a c = true := by
    intro a b c hab hbc
    exact decide_eq_true (String.le_trans (of_decide_eq_true hab) (of_decide_eq_true hbc))
  have htotal : ∀ a b : α, (le a b || le b a) = true := by
    intro a b
    simp only [le, Bool.or_eq_true, decide_eq_true_eq]
    exact String.le_total (key a) (key b)
  have hsorted : (l.mergeSort le).Pairwise fun a b => le a b = true :=
    List.pairwise_mergeSort htrans htotal l
  have hsorted' : (l'.mergeSort le).Pairwise fun a b => le a b = true :=
    List.pairwise_mergeSort htrans htotal l'
  have hperm : (l'.mergeSort le).Perm (l.mergeSort le) :=
    (List.mergeSort_perm l' le).trans (h.trans (List.mergeSort_perm l le).symm)
  refine List.Perm.eq_of_pairwise ?_ hsorted' hsorted hperm
  intro a b ha hb hab hba
  have ha : a ∈ l := h.mem_iff.1 (List.mem_mergeSort.1 ha)
  have hb : b ∈ l := List.mem_mergeSort.1 hb
  have hkey : key a = key b :=
    String.le_antisymm (of_decide_eq_true hab) (of_decide_eq_true hba)
  exact List.inj_on_of_nodup_map hkeys ha hb hkey

/-- The results of steps, sorted by key. -/
def sortedMapM (key : β → String) (f : α → Except ε β) (l : List α) : Except ε (List β) := do
  let r ← l.mapM f
  return r.mergeSort fun x y => decide (key x ≤ key y)

theorem sortedMapM_of_perm {key : α → String} {key' : β → String} {f : α → Except ε β} {r : List β}
    (hf : ∀ a b, f a = .ok b → key' b = key a) (h : l'.Perm l) (hkeys : (l.map key).Nodup)
    (hr : sortedMapM key' f l = .ok r) : sortedMapM key' f l' = .ok r := by
  obtain ⟨results, hresults, hr⟩ := bind_eq_ok.1 hr
  rw [mapM_eq_ok_iff] at hresults
  obtain ⟨results', hresults', hperm⟩ := List.perm_comp_forall₂ h hresults
  have hmap : results.map key' = l.map key := by
    rw [← List.forall₂_eq_eq_eq, List.forall₂_map_left_iff, List.forall₂_map_right_iff]
    exact hresults.flip.imp fun b a hb => hf a b hb
  refine bind_eq_ok.2 ⟨results', mapM_eq_ok_iff.2 hresults', ?_⟩
  rw [mergeSort_eq_of_perm key' hperm (hmap ▸ hkeys)]
  exact hr

/-- Sorted by distinct keys, the results of steps do not depend on the order of the steps. -/
theorem sortedMapM_eq_ok_iff {key : α → String} {key' : β → String} {f : α → Except ε β}
    {r : List β} (hf : ∀ a b, f a = .ok b → key' b = key a) (h : l'.Perm l) (hkeys : (l.map key).Nodup) :
    sortedMapM key' f l' = .ok r ↔ sortedMapM key' f l = .ok r := by
  have hkeys' : (l'.map key).Nodup := (h.map key).nodup_iff.2 hkeys
  constructor
  · exact sortedMapM_of_perm hf h.symm hkeys'
  · exact sortedMapM_of_perm hf h hkeys

end sorting

/-! ## Request bodies in another order -/

/-- Two request bodies that differ only in the order of their content. -/
structure RequestBody.Reorders (b b' : RequestBody) : Prop where
  /-- The content has the same entries. -/
  content : b'.content.entries.Perm b.content.entries
  /-- All else is the same. -/
  rest : { b with content := b'.content } = b'

/-- Two endpoints that differ only in the order of their request bodies. -/
structure Endpoint.Reorders (e e' : Endpoint) : Prop where
  /-- The request bodies differ only in their order. -/
  body : Option.Rel RequestBody.Reorders e.requestBody e'.requestBody
  /-- All else is the same. -/
  rest : { e with requestBody := e'.requestBody } = e'

/-- Two path items that differ only in the order of request bodies. -/
structure PathItem.Reorders (i i' : PathItem) : Prop where
  /-- The endpoints differ only in the order of request bodies. -/
  endpoints : List.Forall₂ Endpoint.Reorders i.endpoints i'.endpoints
  /-- All else is the same. -/
  rest : { i with endpoints := i'.endpoints } = i'

/-- Paths that differ only in the order of request bodies. -/
def ReordersBodies (paths paths' : OrderedMap String PathItem) : Prop :=
  List.Forall₂ (fun x y => x.1 = y.1 ∧ x.2.Reorders y.2) paths.entries paths'.entries

/-- Each entry of some content has the content type that it is kept under. -/
def Content.Keyed (content : Content) : Prop :=
  ∀ t m, content.get? t = some m → m.contentType = t

/-- The content of the request body, if there is one, is kept by content type. -/
def Endpoint.BodyKeyed (e : Endpoint) : Prop := ∀ b, e.requestBody = some b → b.content.Keyed

/-- The content types of keyed content are its keys. -/
theorem Content.Keyed.map_contentType {content : Content} (h : content.Keyed) :
    content.values.map Media.contentType = content.keys := by
  rw [OrderedMap.values, OrderedMap.keys, List.map_map]
  refine List.map_congr_left fun entry hentry => ?_
  exact h entry.1 entry.2 (OrderedMap.get?_eq_some_iff.2 hentry)

/-- The endpoints of paths that differ only in the order of request bodies, one by one. -/
theorem ReordersBodies.forall₂_endpoints {s : Setting} {paths : OrderedMap String PathItem}
    (h : ReordersBodies s.api.paths paths) :
    List.Forall₂ Endpoint.Reorders s.api.endpoints (s.withPaths paths).api.endpoints := by
  refine List.rel_flatMap (R := PathItem.Reorders) ?_ fun item item' hitem => hitem.endpoints
  rw [OrderedMap.values, OrderedMap.values, List.forall₂_map_left_iff, List.forall₂_map_right_iff]
  exact h.imp fun _ _ hentry => hentry.2

/-- The schemas of an endpoint are visited in one order. -/
theorem Endpoint.Reorders.schemaPositions {e e' : Endpoint} (h : e.Reorders e') :
    e'.schemaPositions = e.schemaPositions := by
  obtain ⟨hbody, hrest⟩ := h
  unfold Endpoint.schemaPositions
  rw [← hrest]
  dsimp only
  generalize e'.requestBody = body' at hbody
  generalize e.requestBody = body at hbody
  cases hbody with
  | none => rfl
  | some hcontent =>
    dsimp only
    rw [mergeSort_eq_of_perm Prod.fst hcontent.content (OrderedMap.nodup _)]

namespace Setting

variable {s : Setting} {names : SchemaNames} {e e' : Endpoint} {paths : OrderedMap String PathItem}

/-! ## Discovery -/

/-- The standard policy does not look at request bodies to include an endpoint. -/
theorem includes_reorders (hpolicy : s.policy = .standard) (h : e.Reorders e') :
    s.includes e' = s.includes e := by
  rw [← h.rest]
  unfold includes
  rw [hpolicy]
  rfl

/-- A discovery does not look at the paths. -/
theorem discoverFrom_withPaths (work : List Position) (found : Found) :
    (s.withPaths paths).discoverFrom work found = s.discoverFrom work found := by
  have hvisit : ∀ f p, True → (s.withPaths paths).visit f p = s.visit f p := fun _ _ _ => rfl
  exact discoverFrom_congr hvisit (fun _ _ _ _ => trivial) (fun _ _ _ _ => trivial)
    (fun _ _ => trivial) found

/-- The same is discovered from endpoints that differ only in the order of their request bodies. -/
theorem discoverAll_reorders (hpolicy : s.policy = .standard) {endpoints endpoints' : List Endpoint}
    (h : List.Forall₂ Endpoint.Reorders endpoints endpoints') (found : Found) :
    (s.withPaths paths).discoverAll endpoints' found = s.discoverAll endpoints found := by
  induction h generalizing found with
  | nil => rfl
  | @cons e e' rest rest' he _ ih =>
    have hincludes : (s.withPaths paths).includes e' = s.includes e := includes_reorders hpolicy he
    rw [discoverAll, discoverAll, hincludes, he.schemaPositions, discoverFrom_withPaths]
    simp only [ih]

/-! ## Operations -/

/-- The types of a request body under the standard policy, sorted by content type. -/
theorem bodyTypes_eq (hpolicy : s.policy = .standard) (e : Endpoint) :
    s.bodyTypes names e = sortedMapM Prod.fst (fun m : Media => do
      let type ← s.typeOf names m.position
      return (m.contentType, type)) ((e.requestBody.map fun b => b.content.values).getD []) := by
  unfold bodyTypes
  rw [hpolicy]
  rfl

/-- The types of a request body do not depend on its order. -/
theorem bodyTypes_reorders (hpolicy : s.policy = .standard) (h : e.Reorders e')
    (hkeyed : e.BodyKeyed) {types : List (String × TypeDescriptor)} :
    s.bodyTypes names e' = .ok types ↔ s.bodyTypes names e = .ok types := by
  rw [bodyTypes_eq hpolicy, bodyTypes_eq hpolicy]
  cases hbody : e.requestBody with
  | none =>
    have hrel := h.body
    rw [hbody] at hrel
    cases hbody' : e'.requestBody with
    | none => exact Iff.rfl
    | some b' =>
      rw [hbody'] at hrel
      cases hrel
  | some b =>
    have hrel := h.body
    rw [hbody] at hrel
    cases hbody' : e'.requestBody with
    | none =>
      rw [hbody'] at hrel
      cases hrel
    | some b' =>
      rw [hbody'] at hrel
      cases hrel with
      | some hcontent =>
        have hvalues : b'.content.values.Perm b.content.values := hcontent.content.map Prod.snd
        have hkeys : (b.content.values.map Media.contentType).Nodup := by
          rw [(hkeyed b hbody).map_contentType]
          exact b.content.nodup
        refine sortedMapM_eq_ok_iff ?_ hvalues hkeys
        intro m type htype
        obtain ⟨t, -, heq⟩ := bind_eq_ok.1 htype
        cases heq
        rfl

/-- The operations of an endpoint do not depend on the order of its request body. -/
theorem operationsOf_reorders (hpolicy : s.policy = .standard) (h : e.Reorders e')
    (hkeyed : e.BodyKeyed) {operations : List Operation} :
    ((s.withPaths paths).operationsOf names e').outcome = .ok operations ↔
      (s.operationsOf names e).outcome = .ok operations := by
  have hbody : ∀ types, (s.withPaths paths).bodyTypes names e' = .ok types ↔
      s.bodyTypes names e = .ok types := fun types => bodyTypes_reorders hpolicy h hkeyed
  obtain ⟨body, rfl⟩ : ∃ body, e' = { e with requestBody := body } := ⟨_, h.rest.symm⟩
  unfold operationsOf
  refine Logged.outcome_bind_congr hbody fun types => ?_
  -- Nothing else depends on the request body under the standard policy.
  obtain ⟨api, config, policy, encoder⟩ := s
  cases hpolicy
  by_cases huse : config.useTags = true
  · simp only [named, withPaths, huse]
    exact Iff.rfl
  · simp only [named, withPaths, huse]
    exact Iff.rfl

/-- The operations of endpoints do not depend on the order of their request bodies. -/
theorem operationsOfAll_reorders (hpolicy : s.policy = .standard)
    {endpoints endpoints' : List Endpoint}
    (h : List.Forall₂ Endpoint.Reorders endpoints endpoints')
    (hkeyed : ∀ e ∈ endpoints, e.BodyKeyed) {operations : List Operation} :
    ((s.withPaths paths).operationsOfAll names endpoints').outcome = .ok operations ↔
      (s.operationsOfAll names endpoints).outcome = .ok operations := by
  induction h generalizing operations with
  | nil => exact Iff.rfl
  | @cons e e' rest rest' he _ ih =>
    rw [List.forall_mem_cons] at hkeyed
    have hincludes : (s.withPaths paths).includes e' = s.includes e := includes_reorders hpolicy he
    rw [operationsOfAll, operationsOfAll, hincludes]
    refine Logged.outcome_bind_congr (fun _ => Iff.rfl) fun included => ?_
    cases included with
    | true =>
      refine Logged.outcome_bind_congr (fun _ => operationsOf_reorders hpolicy he hkeyed.1) ?_
      exact fun first => Logged.outcome_bind_congr (fun _ => ih hkeyed.2) fun _ => Iff.rfl
    | false =>
      refine Logged.outcome_bind_congr (fun _ => Iff.rfl) fun first => ?_
      exact Logged.outcome_bind_congr (fun _ => ih hkeyed.2) fun _ => Iff.rfl

/-! ## Runs -/

/-- The stages of a run over paths that differ only in the order of request bodies. -/
def Stages.reorder (t : s.Stages) (paths : OrderedMap String PathItem)
    (hdiscovered : (s.withPaths paths).discover OrderedMap.empty OrderedMap.empty =
      s.discover OrderedMap.empty OrderedMap.empty)
    (hbuilt : ∀ names operations, (s.operations names).outcome = .ok operations →
      ((s.withPaths paths).operations names).outcome = .ok operations) :
    (s.withPaths paths).Stages :=
  { t with
    discovered := hdiscovered.trans t.discovered
    described := t.described
    built := hbuilt _ _ t.built
    reconciled := t.reconciled }

end Setting

/-- The order of request bodies that are kept by content type means nothing: under the standard
policy a run over the same description with its request bodies in another order fails if the run
fails, and otherwise comes to the same schemas, names, operations and files. -/
theorem result_eq_of_reorders {s : Setting} {paths : OrderedMap String PathItem}
    (hpolicy : s.policy = .standard) (hkeyed : ∀ e ∈ s.api.endpoints, e.BodyKeyed)
    (hpaths : ReordersBodies s.api.paths paths) :
    (s.withPaths paths).start.run.outcome.toOption.map PlanState.result =
      s.start.run.outcome.toOption.map PlanState.result := by
  have hendpoints := hpaths.forall₂_endpoints
  have hdiscovered : (s.withPaths paths).discover OrderedMap.empty OrderedMap.empty =
      s.discover OrderedMap.empty OrderedMap.empty :=
    Setting.discoverAll_reorders hpolicy hendpoints _
  have hbuilt : ∀ names operations,
      ((s.withPaths paths).operations names).outcome = .ok operations ↔
        (s.operations names).outcome = .ok operations := fun names operations =>
    Setting.operationsOfAll_reorders hpolicy hendpoints hkeyed
  refine Option.ext fun r => ?_
  simp only [Option.map_eq_some_iff, toOption_eq_some_iff, Setting.run_eq_ok_iff]
  constructor
  · rintro ⟨_, ⟨t, rfl⟩, rfl⟩
    refine ⟨_, ⟨Setting.Stages.reorder (s := s.withPaths paths) t s.api.paths hdiscovered.symm ?_,
      rfl⟩, rfl⟩
    exact fun names operations => (hbuilt names operations).1
  · rintro ⟨_, ⟨t, rfl⟩, rfl⟩
    refine ⟨_, ⟨t.reorder paths hdiscovered ?_, rfl⟩, rfl⟩
    exact fun names operations => (hbuilt names operations).2

/-- An object with a title. -/
def titledObject (title : String) : Value :=
  .ofFields [("type", .str "object"), ("title", .str title)]

/-- An endpoint to which some content may be sent. -/
def sending (content : Content) : Endpoint where
  path := "/notes"
  method := .post
  operationId := some "addNote"
  tags := []
  parameters := []
  pathParameters := []
  requestBody := some ⟨true, none, content⟩
  responses := OrderedMap.empty
  summary := none
  description := none
  externalDocs := none
  deprecated := false

/-- The plan of a description with one endpoint, to which some content may be sent. -/
def sendingSetting (content : Content) : Setting :=
  structuralSetting {
    info := ⟨"Notes", "1", none⟩
    formatVersion := "3.0.3"
    paths := OrderedMap.empty.insert "/notes" ⟨"/notes", [], [sending content]⟩
    document := .map [] }

/-- A note as a form or as JSON, each with a schema of its own. -/
def noteContent : Content :=
  .ofList [("form", ⟨"form", titledObject "Form", "#/form"⟩),
    ("application/json", ⟨"application/json", titledObject "Note", "#/json"⟩)]

/-- JSON comes before forms. -/
theorem schemaPositions_note : (sending noteContent).schemaPositions =
    [⟨titledObject "Note", "#/json"⟩, ⟨titledObject "Form", "#/form"⟩] := by
  have hsorted : noteContent.entries.mergeSort (fun x y => decide (x.1 ≤ y.1)) =
      noteContent.entries.reverse := by
    rw [← mergeSort_eq_of_perm Prod.fst noteContent.entries.reverse_perm noteContent.nodup]
    exact List.mergeSort_of_pairwise (by decide +kernel)
  unfold Endpoint.schemaPositions
  simp only [sending, hsorted]
  rfl

/-- Notes are planned alike if the entries of their request body are reversed. -/
theorem result_eq_notes : ∃ (s : Setting) (paths : OrderedMap String PathItem) (p p' : PlanState),
    s.policy = .standard ∧ (∀ e ∈ s.api.endpoints, e.BodyKeyed) ∧
    ReordersBodies s.api.paths paths ∧ s.start.run.outcome = .ok p ∧
    (s.withPaths paths).start.run.outcome = .ok p' ∧
    p.schemaNames.entries = [("#/json", "Note"), ("#/form", "Form")] ∧ p'.result = p.result := by
  have hkeyed : noteContent.Keyed := by
    intro t m h
    have hm := OrderedMap.get?_eq_some_iff.1 h
    have hentries : noteContent.entries = [("form", ⟨"form", titledObject "Form", "#/form"⟩),
      ("application/json", ⟨"application/json", titledObject "Note", "#/json"⟩)] := rfl
    simp only [hentries, List.mem_cons, List.not_mem_nil, or_false, Prod.mk.injEq] at hm
    rcases hm with ⟨rfl, rfl⟩ | ⟨rfl, rfl⟩ <;> rfl
  have hbodies : ∀ e ∈ (sendingSetting noteContent).api.endpoints, e.BodyKeyed := by
    intro e he b hb
    obtain rfl := List.mem_singleton.1 he
    cases hb
    exact hkeyed
  have hpaths : ReordersBodies (sendingSetting noteContent).api.paths
      (sendingSetting noteContent.reversed).api.paths :=
    .cons ⟨rfl, .cons ⟨.some ⟨noteContent.entries.reverse_perm, rfl⟩, rfl⟩ .nil, rfl⟩ .nil
  have hfound : (sendingSetting noteContent).discoverAllWithin 8
      (sendingSetting noteContent).api.endpoints ⟨[], OrderedMap.empty, OrderedMap.empty⟩ =
      (sendingSetting noteContent).discoverWithin 8
        [⟨titledObject "Note", "#/json"⟩, ⟨titledObject "Form", "#/form"⟩]
        ⟨[], OrderedMap.empty, OrderedMap.empty⟩ := by
    show ((sendingSetting noteContent).discoverWithin 8 (sending noteContent).schemaPositions
      ⟨[], OrderedMap.empty, OrderedMap.empty⟩).bind some = _
    rw [schemaPositions_note, Option.bind_fun_some]
  have hrun : ((sendingSetting noteContent).runWithin 8).any (fun p =>
      p.schemaNames.entries == [("#/json", "Note"), ("#/form", "Form")]) = true := by
    rw [Setting.runWithin, hfound]
    decide +kernel
  obtain ⟨p, hp, hnames⟩ := (Option.any_eq_true _ _).1 hrun
  have hp := Setting.run_of_runWithin rfl hp
  have heq := result_eq_of_reorders (s := sendingSetting noteContent) rfl hbodies hpaths
  rw [hp] at heq
  obtain ⟨p', hp', hresult⟩ := Option.map_eq_some_iff.1 heq
  exact ⟨sendingSetting noteContent, (sendingSetting noteContent.reversed).api.paths, p, p',
    rfl, hbodies, hpaths, hp, toOption_eq_some_iff.1 hp', eq_of_beq hnames, hresult⟩

end ClientPlan
