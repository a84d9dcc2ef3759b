import ClientPlan.Proofs.Discovery.Grouping

/-!
# What a run comes to

A run goes through all stages, so it succeeds exactly when the schemas are discovered and described,
the operations built and the files reconciled (`run_eq_ok_iff`).  Describing the schemas keeps their
names and what they need.
-/

set_option autoImplicit false

namespace ClientPlan

namespace Setting

variable {s : Setting}

/-- The outcomes of the stages of a run. -/
structure Stages (s : Setting) where
  /-- What is discovered. -/
  found : Found
  /-- The described schemas. -/
  schemas : SchemaMap
  /-- The operations. -/
  operations : List Operation
  /-- The files. -/
  files : FileMap
  /-- The schemas are discovered from nothing. -/
  discovered : s.discover OrderedMap.empty OrderedMap.empty = .ok found
  /-- What is discovered is described. -/
  described : s.describe found.schemas found.names = .ok schemas
  /-- The operations use the names that are discovered. -/
  built : (s.operations found.names).outcome = .ok operations
  /-- The files are those of the schemas and the operations. -/
  reconciled : reconcile (s.config.schemaFiles schemas.values) (s.config.operationFiles operations)
    (s.config.interfaceFiles operations) = .ok files

/-- The plan at the end of a run. -/
def Stages.plan (t : s.Stages) : PlanState :=
  { s.start with
    schemas := t.schemas
    schemaNames := t.found.names
    operations := t.operations
    schemaFiles := s.config.schemaFiles t.schemas.values
    operationFiles := s.config.operationFiles t.operations
    interfaceFiles := s.config.interfaceFiles t.operations
    files := t.files }

/-- A run succeeds exactly when its stages do. -/
theorem run_eq_ok_iff {p : PlanState} :
    s.start.run.outcome = .ok p ↔ ∃ t : s.Stages, p = t.plan := by
  simp only [PlanState.run, Stage.all, PlanState.advanceAll, PlanState.advance,
    Logged.outcome_bind_eq_ok, Logged.outcome_ofExcept, Logged.outcome_pure]
  constructor
  · rintro ⟨p₁, h₁, p₂, h₂, p₃, h₃, p₄, h₄, p₅, h₅, p₆, h₆, p₇, h₇, h⟩
    obtain ⟨found, hfound, rfl⟩ := discoverSchemas_start_eq_ok.1 h₁
    obtain ⟨schemas, hschemas, he₂⟩ := bind_eq_ok.1 h₂
    cases he₂
    obtain ⟨operations, hoperations, he₃⟩ := Logged.outcome_bind_eq_ok.1 h₃
    cases he₃
    cases h₄
    cases h₅
    cases h₆
    obtain ⟨files, hfiles, he₇⟩ := bind_eq_ok.1 h₇
    cases he₇
    cases h
    exact ⟨⟨found, schemas, operations, files, hfound, hschemas, hoperations, hfiles⟩, rfl⟩
  · rintro ⟨t, rfl⟩
    refine ⟨_, discoverSchemas_start_eq_ok.2 ⟨t.found, t.discovered, rfl⟩, _,
      bind_eq_ok.2 ⟨t.schemas, t.described, rfl⟩, _,
      Logged.outcome_bind_eq_ok.2 ⟨t.operations, t.built, rfl⟩, _, rfl, _, rfl, _, rfl, _,
      bind_eq_ok.2 ⟨t.files, t.reconciled, rfl⟩, rfl⟩

end Setting

/-- What a plan comes to: its schemas, their names, its operations and its files. -/
def PlanState.result (p : PlanState) : SchemaMap × SchemaNames × List Operation × FileMap :=
  (p.schemas, p.schemaNames, p.operations, p.files)

/-- What a document comes to: its description is read, and a plan is made from it under the standard
policy. -/
def planned (document : Value) (version : String) (config : Config) :
    Logged (SchemaMap × SchemaNames × List Operation × FileMap) := do
  let api ← readApi document version
  PlanState.result <$> (Setting.start ⟨api, config, .standard, .structural⟩).run

/-- A document comes to the result of the run over its description. -/
theorem outcome_planned {document : Value} {version : String} {config : Config} {api : Api}
    (hapi : readApi document version = .ok api) {p : PlanState}
    (hp : (Setting.start ⟨api, config, .standard, .structural⟩).run.outcome = .ok p) :
    (planned document version config).outcome = .ok p.result := by
  rw [planned, hapi]
  refine Logged.outcome_bind_eq_ok.2 ⟨api, rfl, ?_⟩
  exact Logged.outcome_bind_eq_ok.2 ⟨p, hp, rfl⟩

/-- A run comes to what its stages give, one after another. -/
theorem Setting.result_run (s : Setting) : PlanState.result <$> s.start.run = (do
    let found ← s.discover OrderedMap.empty OrderedMap.empty
    let schemas ← s.describe found.schemas found.names
    let operations ← s.operations found.names
    let files ← reconcile (s.config.schemaFiles schemas.values) (s.config.operationFiles operations)
      (s.config.interfaceFiles operations)
    return (schemas, found.names, operations, files)) := by
  simp only [PlanState.run, Stage.all, PlanState.advanceAll, PlanState.advance,
    PlanState.discoverSchemas, PlanState.describeSchemas, PlanState.buildOperations,
    PlanState.reconcileFiles, Logged.ofExcept_bind, Logged.ofExcept_pure, map_bind, bind_assoc,
    pure_bind, map_pure]
  rfl

/-- A document whose schemas cannot be discovered comes to that failure. -/
theorem outcome_planned_eq_error {document : Value} {version : String} {config : Config} {api : Api}
    (hapi : readApi document version = .ok api) {failure : Failure}
    (h : Setting.discover ⟨api, config, .standard, .structural⟩ OrderedMap.empty OrderedMap.empty =
      .error failure) : (planned document version config).outcome = .error failure := by
  rw [planned, hapi]
  refine Logged.outcome_bind_eq_error.2 (.inr ⟨api, rfl, ?_⟩)
  rw [Setting.result_run]
  exact Logged.outcome_bind_eq_error.2 (.inl h)

/-! ## Parameters -/

/-- The parameter for a placeholder is one of those it is looked for among. -/
theorem mem_of_parameterFor? {parameters : List Parameter} {name : String} {parameter : Parameter}
    (h : parameterFor? parameters name = some parameter) : parameter ∈ parameters := by
  rcases Option.or_eq_some_iff.1 h with h | ⟨-, h⟩
  · exact (List.mem_filter.1 (List.mem_of_find?_eq_some h)).1
  · exact (List.mem_filter.1 (List.mem_of_head? h)).1

/-! ## Schemas without fields -/

/-- Whether a node is a mapping without the keywords that fields come from. -/
def Value.isPlain (v : Value) : Bool :=
  v.isMap && [referenceKey, "allOf", "required", "properties"].all fun key => !v.has key

/-- A plain node declares no properties. -/
theorem Declaration.ofSchema_of_isPlain {document : Value} {p : Position}
    (h : p.node.isPlain = true) : ofSchema document p = .ok [] := by
  rw [Value.isPlain, Bool.and_eq_true, List.all_eq_true] at h
  obtain ⟨hmap, hkeys⟩ := h
  have hnone : ∀ key ∈ [referenceKey, "allOf", "required", "properties"],
      p.node.get? key = none := by
    intro key hkey
    simpa [Value.has] using hkeys key hkey
  have href : p.node.get? referenceKey = none := hnone _ (by decide)
  have hallOf : p.node.get? "allOf" = none := hnone _ (by decide)
  have hrequired : p.node.get? "required" = none := hnone _ (by decide)
  have hproperties : p.node.get? "properties" = none := hnone _ (by decide)
  have hmembers : allOfMembers p.node = .ok [] := by
    rw [allOfMembers, listAt?, hallOf]
    rfl
  rw [ofSchema, collect, hmap]
  split
  · next hnot => cases hnot
  · split
    · next r hr =>
      rw [href] at hr
      cases hr
    · split
      · next e he =>
        rw [hmembers] at he
        cases he
      · next members hm =>
        rw [hmembers] at hm
        cases hm
        refine bind_eq_ok.2 ⟨[], rfl, bind_eq_ok.2 ⟨[], ?_, ?_⟩⟩
        · rw [requiredNames, hrequired]
          rfl
        · rw [own, hproperties]
          rfl

/-- Schemas of plain nodes can be described. -/
theorem Setting.exists_describe (s : Setting) {schemas : SchemaMap} (names : SchemaNames)
    (h : ∀ name schema, schemas.get? name = some schema → schema.node.isPlain = true) :
    ∃ described, s.describe schemas names = .ok described := by
  refine OrderedMap.exists_traverse fun name schema hschema => ⟨_, bind_eq_ok.2 ⟨[], ?_, rfl⟩⟩
  refine bind_eq_ok.2 ⟨[], Declaration.ofSchema_of_isPlain (h name schema hschema), rfl⟩

end ClientPlan
