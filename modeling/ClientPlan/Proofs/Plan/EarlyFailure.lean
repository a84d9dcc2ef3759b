import ClientPlan.Proofs.Discovery.Bounded
import ClientPlan.Proofs.Discovery.Sweep
import ClientPlan.Proofs.Naming.Homes
import ClientPlan.Proofs.Plan.Run
import ClientPlan.Proofs.Schema.Following

/-!
# References fail early

If nothing is left out, a discovery passes everything that the later stages look at, except for the
schemas of parameters.  So once it has succeeded, no later stage meets a reference that cannot be
followed, unless in the schema of a parameter (`referencesSettled_of_discoverSchemas`).
-/

set_option autoImplicit false

namespace ClientPlan

namespace Setting

variable {s : Setting} {f : Found} {p q m : Position} {passed : List Position}
  {log : List Registration} {declared : Option String} {names : SchemaNames} {e : Endpoint}
  {failure : Failure}

/-! ## Nothing is left out -/

/-- The policy leaves nothing out. -/
structure KeepsAll (s : Setting) : Prop where
  /-- Every endpoint is included. -/
  endpoints : ∀ e, s.includes e = .ok true
  /-- Every schema is collected. -/
  schemas : ∀ r, s.admits r = .ok true

/-- The standard policy leaves nothing out if there is nothing to ignore. -/
theorem keepsAll_of_standard (hpolicy : s.policy = .standard) (hignore : s.config.ignore = []) :
    s.KeepsAll where
  endpoints e := by
    rw [includes, hpolicy]
    show Policy.standardIncludesEndpoint s.config e = _
    rw [Policy.standardIncludesEndpoint, hignore]
    rfl
  schemas r := by
    rw [admits, hpolicy]
    show Policy.standardIncludesSchema s.config r.candidate = _
    rw [Policy.standardIncludesSchema, hignore]
    rfl

theorem KeepsAll.not_rejects (h : s.KeepsAll) : ¬ s.Rejects q declared := by
  rintro ⟨r, -, ha⟩
  rw [h.schemas r] at ha
  cases ha

/-! ## What a discovery finds -/

/-- A discovery comes to a position: it meets it, or something that stands for it. -/
inductive Finds (s : Setting) (p : Position) : Prop where
  /-- The position is met. -/
  | met (hp : s.Meets p)
  /-- A position that is met stands for it. -/
  | place {m : Position} {declared : Option String} (hm : s.Meets m)
      (hq : s.StandsFor m p declared)

/-- A reference that is found is met. -/
theorem Finds.meets (h : s.Finds p) (hk : s.KeepsAll) (href : p.node.has referenceKey = true) :
    s.Meets p := by
  cases h with
  | met hp => exact hp
  | place hm hq => exact .chain hm hq hk.not_rejects href

/-- The parts of what is found are met. -/
theorem Finds.meets_part (h : s.Finds p) (hk : s.KeepsAll)
    (hnone : p.node.get? referenceKey = none) (hm : p.Part m) : s.Meets m := by
  have hhas : p.node.has referenceKey = false := by rw [Value.has, hnone, Option.isSome_none]
  cases h with
  | met hp => exact .part hp (.node hm.isMap hnone) hk.not_rejects hhas hm
  | place hm' hq => exact .part hm' hq hk.not_rejects hhas hm

/-- What is remembered can be resolved. -/
theorem Swept.exists_resolve {todo : List Endpoint} {work : List Position}
    (h : s.Swept todo work passed f) (hd : s.api.document.hasTextKeys = true)
    (hindices : s.api.document.hasIndices = true)
    (hl : ∀ e ∈ s.api.endpoints, e.Located s.api.document) {i : String} (hi : i ∈ f.visited) :
    ∃ v, Pointer.resolve s.api.document i = .ok v := by
  obtain ⟨p, hp, hi⟩ := h.identified i hi
  cases hi with
  | @place q declared hq hpointer hplace =>
    obtain ⟨path, hat⟩ := hq.located ((h.met p hp).located hd hindices hl)
    exact ⟨q.node, hpointer ▸ hat.resolve⟩
  | @dead v href htarget hmap => exact ⟨v, htarget⟩

/-- What is found, if it is a mapping. -/
def Covers (s : Setting) (p : Position) : Prop := p.node.isMap = true → s.Finds p

/-- After a discovery all references that are found can be followed. -/
theorem Swept.followable (h : s.Swept [] [] passed f) (hk : s.KeepsAll)
    (hd : s.api.document.hasTextKeys = true) (hindices : s.api.document.hasIndices = true)
    (hl : ∀ e ∈ s.api.endpoints, e.Located s.api.document) :
    Position.Followable s.api.document s.Covers := by
  have hmeets {p : Position} {r : Value} (hp : s.Covers p)
      (hr : p.node.get? referenceKey = some r) : s.Meets p := by
    refine (hp (Value.isMap_of_get? hr)).meets hk ?_
    rw [Value.has, hr, Option.isSome_some]
  refine { reference := ?_, part := ?_, resolves := ?_ }
  · intro p ref target hp hr htarget hmap
    exact .place (hmeets hp hr) (.reference hr htarget hmap)
  · intro p m hp hnone hm _
    exact .met ((hp hm.isMap).meets_part hk hnone hm)
  · intro p r hp hr
    obtain ⟨ref, hv, rfl⟩ := h.references p (h.mem_passed (hmeets hp hr)) r hr
    obtain ⟨v, hresolve⟩ := h.exists_resolve hd hindices hl hv
    exact ⟨ref, v, rfl, hresolve⟩

/-! ## Failures of the later stages -/

section later

variable (hencoder : s.encoder = Encoder.structural)
  (hgood : Position.Followable s.api.document s.Covers)

include hencoder hgood

theorem elsewhere_of_typeOf (hp : s.Covers p) (h : s.typeOf names p = .error failure) :
    failure.Elsewhere := by
  rw [typeOf, hencoder] at h
  exact Encoder.elsewhere_of_structural hgood hp h

theorem elsewhere_of_fieldsOf {schema : Schema} (hschema : s.Covers schema.position)
    (h : s.fieldsOf names schema = .error failure) : failure.Elsewhere := by
  rcases bind_eq_error.1 h with h | ⟨declarations, hdeclarations, h⟩
  · exact Declaration.elsewhere_of_ofSchema hgood hschema h
  obtain ⟨d, hd, h⟩ := exists_of_mapM_eq_error h
  have hcovers := Declaration.good_of_ofSchema hgood.toInherited hschema hdeclarations d hd
  rcases bind_eq_error.1 h with h | ⟨type, -, h⟩
  · exact elsewhere_of_typeOf hencoder hgood hcovers h
  rcases bind_eq_error.1 h with h | ⟨name, -, h⟩
  · exact elsewhere_of_required h
  · cases h

theorem elsewhere_of_describe {schemas : SchemaMap}
    (hschemas : ∀ name schema, schemas.get? name = some schema → s.Covers schema.position)
    (h : s.describe schemas names = .error failure) : failure.Elsewhere := by
  obtain ⟨name, schema, hschema, h⟩ := OrderedMap.exists_of_traverse_eq_error h
  rcases bind_eq_error.1 h with h | ⟨fields, -, h⟩
  · exact elsewhere_of_fieldsOf hencoder hgood (hschemas name schema hschema) h
  · cases h

theorem elsewhere_of_bodyTypes (hpolicy : s.policy = .standard)
    (hbody : ∀ p, e.HasSchema p → s.Covers p) (h : s.bodyTypes names e = .error failure) :
    failure.Elsewhere := by
  rcases bind_eq_error.1 h with h | ⟨types, -, h⟩
  · obtain ⟨media, hmedia, h⟩ := exists_of_mapM_eq_error h
    rcases bind_eq_error.1 h with h | ⟨type, -, h⟩
    · refine elsewhere_of_typeOf hencoder hgood (hbody _ ?_) h
      rw [hpolicy] at hmedia
      change media ∈ (e.requestBody.map fun b => b.content.values).getD [] at hmedia
      cases hb : e.requestBody with
      | none =>
        rw [hb] at hmedia
        cases hmedia
      | some body =>
        rw [hb] at hmedia
        obtain ⟨contentType, hmedia⟩ := OrderedMap.mem_values_iff.1 hmedia
        exact .body hb hmedia
    · cases h
  · cases h

theorem elsewhere_of_responseTypes (hresponses : ∀ p, e.HasSchema p → s.Covers p)
    (h : s.responseTypes names e = .error failure) : failure.Elsewhere := by
  obtain ⟨status, response, hresponse, h⟩ := OrderedMap.exists_of_traverse_eq_error h
  unfold responseType at h
  split at h
  · cases h
  next content hcontent =>
  split at h
  · cases h
  split at h
  · cases h
  · next media hmedia =>
    refine elsewhere_of_typeOf hencoder hgood ?_ (map_eq_error.1 h)
    exact hresponses _ (.response hresponse hcontent hmedia)

end later

/-! ## Failures at parameters -/

/-- A failure comes from the schema of one of some parameters. -/
def FailsAt (s : Setting) (names : SchemaNames) (parameters : List Parameter) (failure : Failure) :
    Prop := ∃ parameter ∈ parameters, s.typeOf names parameter.position = .error failure

theorem paramOf_eq_error {location : Location} {parameter : Parameter}
    (h : s.paramOf names location parameter = .error failure) :
    s.typeOf names parameter.position = .error failure := by
  rcases bind_eq_error.1 h with h | ⟨type, -, h⟩
  · exact h
  · cases h

/-- The parameters of a function fail at the schema of one of them, or for a reason that is not in
the document. -/
theorem failsAt_of_classify {path : String} {parameters : List Parameter}
    {operationId : Option String}
    (h : s.classify names path parameters operationId = .error failure) :
    failure.Elsewhere ∨ s.FailsAt names parameters failure := by
  rcases bind_eq_error.1 h with h | ⟨inPath, -, h⟩
  · obtain ⟨placeholder, -, h⟩ := exists_of_mapM_eq_error h
    unfold pathParam at h
    split at h
    · cases h
      exact .inl nofun
    · next parameter hparameter =>
      exact .inr ⟨parameter, mem_of_parameterFor? hparameter, paramOf_eq_error h⟩
  rcases bind_eq_error.1 h with h | ⟨inQuery, -, h⟩
  · obtain ⟨parameter, hparameter, h⟩ := exists_of_mapM_eq_error h
    exact .inr ⟨parameter, (List.mem_filter.1 hparameter).1, paramOf_eq_error h⟩
  · cases h

/-- The operations of an endpoint fail at the schema of a parameter if they fail for a reason in the
document. -/
theorem failsAt_of_operationsOf (hencoder : s.encoder = Encoder.structural)
    (hgood : Position.Followable s.api.document s.Covers) (hpolicy : s.policy = .standard)
    (hschemas : ∀ p, e.HasSchema p → s.Covers p)
    (h : (s.operationsOf names e).outcome = .error failure) :
    failure.Elsewhere ∨
      s.FailsAt names (mergeParameters e.pathParameters e.parameters) failure := by
  unfold operationsOf at h
  rcases Logged.outcome_bind_eq_error.1 h with h | ⟨requestBody, -, h⟩
  · exact .inl (elsewhere_of_bodyTypes hencoder hgood hpolicy hschemas h)
  rcases Logged.outcome_bind_eq_error.1 h with h | ⟨responses, -, h⟩
  · exact .inl (elsewhere_of_responseTypes hencoder hgood hschemas h)
  rcases Logged.outcome_bind_eq_error.1 h with h | ⟨params, -, h⟩
  · exact failsAt_of_classify h
  rcases Logged.outcome_bind_eq_error.1 h with h | ⟨homes, -, h⟩
  · -- The standard policy always finds homes.
    rw [hpolicy] at h
    change (Policy.standardHomes (s.named e)).outcome = _ at h
    rw [Endpoint.outcome_standardHomes] at h
    cases h
  · cases h

end Setting

/-! ## Early failure -/

/-- Once the schemas have been discovered, references can be followed, except in the schemas of
parameters. -/
structure PlanState.ReferencesSettled (p : PlanState) : Prop where
  /-- Every reference that is met resolves. -/
  references : ∀ m r, p.Meets m → m.node.get? referenceKey = some r →
    ∃ ref target, r = .str ref ∧ Pointer.resolve p.api.document ref = .ok target
  /-- Schemas are not described in vain because of the document. -/
  schemas : ∀ failure, p.describeSchemas = .error failure → failure.category? ≠ some .document
  /-- Request bodies are not encoded in vain because of the document. -/
  bodies : ∀ e ∈ p.api.endpoints, ∀ failure, p.bodyTypes p.schemaNames e = .error failure →
    failure.category? ≠ some .document
  /-- Responses are not encoded in vain because of the document. -/
  responses : ∀ e ∈ p.api.endpoints, ∀ failure, p.responseTypes p.schemaNames e = .error failure →
    failure.category? ≠ some .document
  /-- If the operations cannot be built because of the document, this is due to the schema of a
  parameter. -/
  parameters : ∀ failure, p.buildOperations.outcome = .error failure →
    failure.category? = some .document → ∃ e ∈ p.api.endpoints,
      p.FailsAt p.schemaNames (mergeParameters e.pathParameters e.parameters) failure

theorem Setting.failsAt_of_operationsOfAll {s : Setting} {names : SchemaNames} {failure : Failure}
    (hk : s.KeepsAll) {endpoints : List Endpoint}
    (hparameters : ∀ e ∈ endpoints, (s.operationsOf names e).outcome = .error failure →
      failure.Elsewhere ∨
        s.FailsAt names (mergeParameters e.pathParameters e.parameters) failure)
    (h : (s.operationsOfAll names endpoints).outcome = .error failure) :
    failure.Elsewhere ∨ ∃ e ∈ endpoints,
      s.FailsAt names (mergeParameters e.pathParameters e.parameters) failure := by
  induction endpoints with
  | nil => cases h
  | cons e r ih =>
    unfold operationsOfAll at h
    rcases Logged.outcome_bind_eq_error.1 h with h | ⟨included, hincluded, h⟩
    · change s.includes e = _ at h
      rw [hk.endpoints e] at h
      cases h
    obtain rfl : true = included := Except.ok.inj ((hk.endpoints e).symm.trans hincluded)
    rcases Logged.outcome_bind_eq_error.1 h with h | ⟨first, -, h⟩
    · exact (hparameters e List.mem_cons_self h).imp_right fun hfails =>
        ⟨e, List.mem_cons_self, hfails⟩
    rcases Logged.outcome_bind_eq_error.1 h with h | ⟨rest, -, h⟩
    · refine (ih (fun e' he' => hparameters e' (List.mem_cons_of_mem e he')) h).imp_right ?_
      rintro ⟨e', he', hfails⟩
      exact ⟨e', List.mem_cons_of_mem e he', hfails⟩
    · cases h

/-- In a document with text keys and indices, if nothing is ignored and the schemas can be discovered,
no reference that cannot be followed is left to the later stages, unless in the schema of a parameter:
neither the schemas nor the request bodies and responses fail because of the document. -/
theorem referencesSettled_of_discoverSchemas {s : Setting} {p : PlanState} {document : Value}
    {version : String} (hkeys : document.hasTextKeys = true)
    (hindices : document.hasIndices = true)
    (hread : readApi document version = .ok s.api) (hpolicy : s.policy = .standard)
    (hencoder : s.encoder = Encoder.structural) (hignore : s.config.ignore = [])
    (h : s.start.discoverSchemas = .ok p) : p.ReferencesSettled := by
  obtain ⟨hdocument, hlocated⟩ := located_of_readApi hkeys hread
  rw [← hdocument] at hkeys hindices hlocated
  have hk := Setting.keepsAll_of_standard hpolicy hignore
  obtain ⟨f, hf, rfl⟩ := Setting.discoverSchemas_start_eq_ok.1 h
  obtain ⟨log, hlog⟩ := Setting.recorded_of_discover hf
  obtain ⟨passed, hswept⟩ := Setting.swept_of_discover
    (Setting.oneNode_of_located hkeys hindices hlocated)
    (fun p p' q declared declared' _ _ _ _ hr => absurd hr hk.not_rejects) hf
  have hgood := hswept.followable hk hkeys hindices hlocated
  have hschemas : ∀ e ∈ s.api.endpoints, ∀ p, e.HasSchema p → s.Covers p :=
    fun e he p hp _ => .met (.root he (hk.endpoints e) hp)
  refine ⟨?_, ?_, ?_, ?_, ?_⟩
  · exact fun m r hm hr => hgood.resolves (fun _ => .met hm) hr
  · intro failure hfailure
    rcases bind_eq_error.1 hfailure with hfailure | ⟨described, -, hfailure⟩
    · refine Setting.elsewhere_of_describe hencoder hgood (fun name schema hschema _ => ?_) hfailure
      obtain ⟨m, declared, hm, hq, -⟩ := hlog.position_of_schema hkeys hindices hlocated hschema
      exact .place hm hq
    · cases hfailure
  · intro e he failure hfailure
    exact Setting.elsewhere_of_bodyTypes hencoder hgood hpolicy (hschemas e he) hfailure
  · intro e he failure hfailure
    exact Setting.elsewhere_of_responseTypes hencoder hgood (hschemas e he) hfailure
  · intro failure hfailure hdocument
    rcases Logged.outcome_bind_eq_error.1 hfailure with hfailure | ⟨operations, -, hfailure⟩
    · have hfails := Setting.failsAt_of_operationsOfAll hk (fun e he =>
        Setting.failsAt_of_operationsOf hencoder hgood hpolicy (hschemas e he)) hfailure
      exact hfails.resolve_left fun helse => helse hdocument
    · cases hfailure

/-- A document of pets with a parameter whose schema is a reference to nothing. -/
def danglingDocument : Value :=
  .ofFields [
    ("paths", .ofFields [("/pets", .ofFields [("get", .ofFields [
      ("parameters", .list [.ofFields [("name", .str "kind"), ("in", .str "query"),
        ("schema", refTo "kind")]]),
      ("responses", .ofFields [("200", .ofFields [("content", .ofFields [("application/json",
        .ofFields [("schema", refTo "pet")])])])])])])]),
    ("components", .ofFields [("schemas", .ofFields [("pet", .ofFields [
      ("type", .str "object"),
      ("properties", .ofFields [("friend", refTo "pet")])])])])]

/-- The pets are discovered and can be described and answered, but what they are asked for by is a
reference to nothing. -/
theorem referencesSettled_dangling : ∃ (s : Setting) (p : PlanState),
    danglingDocument.hasTextKeys = true ∧ danglingDocument.hasIndices = true ∧
    readApi danglingDocument "3.0.3" = .ok s.api ∧
    s.policy = .standard ∧ s.encoder = Encoder.structural ∧ s.config.ignore = [] ∧
    s.start.discoverSchemas = .ok p ∧ p.schemaNames.keys = ["#/components/schemas/pet"] ∧
    p.ReferencesSettled ∧ ∃ e ∈ p.api.endpoints, ∃ failure,
      p.FailsAt p.schemaNames e.parameters failure ∧ failure.category? = some .document := by
  let ref := "#/components/schemas/kind"
  obtain ⟨api, f, hapi, hf, htest⟩ := Setting.exists_discover danglingDocument "3.0.3"
    structuralSetting 8
    (fun api f => f.names.keys == ["#/components/schemas/pet"] &&
      (Pointer.resolve api.document ref).toOption.isNone && api.endpoints.any fun e =>
        e.parameters.any fun parameter => (parameter.schema.get? referenceKey).any (·.isText ref))
    (fun _ => rfl) (by decide +kernel)
  obtain ⟨htest, hendpoint⟩ := Bool.and_eq_true_iff.1 htest
  obtain ⟨hnames, hdangling⟩ := Bool.and_eq_true_iff.1 htest
  have hnames := eq_of_beq hnames
  obtain ⟨e, he, hparameter⟩ := List.any_eq_true.1 hendpoint
  obtain ⟨parameter, hparameter, href⟩ := List.any_eq_true.1 hparameter
  obtain ⟨r, hr, href⟩ := (Option.any_eq_true _ _).1 href
  obtain rfl := Value.eq_str_of_isText href
  have hkeys : danglingDocument.hasTextKeys = true := by decide +kernel
  have hindices : danglingDocument.hasIndices = true := by decide +kernel
  have hp := Setting.discoverSchemas_start_eq_ok.2 ⟨f, hf, rfl⟩
  refine ⟨structuralSetting api, _, hkeys, hindices, hapi, rfl, rfl, rfl, hp, hnames,
    referencesSettled_of_discoverSchemas (s := structuralSetting api) hkeys hindices hapi rfl rfl rfl
      hp, e, he, ?_⟩
  have hunnamed : f.names.get? ref = none := by
    rw [OrderedMap.get?_eq_none_iff, hnames]
    decide
  cases hresolve : Pointer.resolve api.document ref with
  | ok target =>
    rw [hresolve] at hdangling
    cases hdangling
  | error cause =>
    exact ⟨.document cause, ⟨parameter, hparameter,
      Encoder.structural_eq_error_of_dangling hr hunnamed hresolve⟩, rfl⟩

end ClientPlan
