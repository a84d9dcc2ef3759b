import ClientPlan.Proofs.Plan.Bounded
import ClientPlan.Proofs.Plan.FilePlan
import ClientPlan.Proofs.Schema.TypeNames
import Mathlib.Data.List.ReduceOption

/-!
# No dangling type references

Types are made in two stages, for the fields of schemas and for operations, and are carried into the
files.  With the structural encoder each of them names only schemas that are collected, and each of
these has a file that holds it.
-/

set_option autoImplicit false

namespace ClientPlan

/-! ## Types of a plan -/

/-- The types of a schema and of its fields. -/
def Schema.types (schema : Schema) : List TypeDescriptor :=
  schema.type.toList ++ schema.fields.map SchemaField.type

/-- The types of the parameters, the request body and the responses of an operation. -/
def Operation.types (op : Operation) : List TypeDescriptor :=
  op.pathParams.map Param.type ++ op.queryParams.map Param.type ++ op.requestBody.map Prod.snd ++
    op.responses.values.reduceOption

/-- The types of some files. -/
def FileMap.types (files : FileMap) : List TypeDescriptor :=
  files.values.flatMap fun unit =>
    unit.schemas.flatMap Schema.types ++ unit.operations.flatMap Operation.types

/-- All types of a plan: those of its schemas, of its operations and of the records in its files. -/
def PlanState.types (p : PlanState) : List TypeDescriptor :=
  p.schemas.values.flatMap Schema.types ++ p.operations.flatMap Operation.types ++
    [p.schemaFiles, p.operationFiles, p.interfaceFiles, p.files].flatMap FileMap.types

/-! ## Types that are made -/

namespace Setting

variable {s : Setting} {names : SchemaNames} {p : Position} {t : TypeDescriptor}

theorem schemaNames_typeOf (hs : s.encoder = Encoder.structural) (h : s.typeOf names p = .ok t) :
    t.schemaNames ⊆ names.values := by
  rw [typeOf, hs] at h
  exact Encoder.schemaNames_structural_subset h

/-- The types of a described schema name the schema itself and collected schemas. -/
theorem schemaNames_describe (hs : s.encoder = Encoder.structural) {schemas described : SchemaMap}
    (h : s.describe schemas names = .ok described) {name : String} {schema : Schema}
    (hschema : described.get? name = some schema) (ht : t ∈ schema.types) :
    t.schemaNames ⊆ name :: names.values := by
  obtain ⟨found, -, hfound⟩ := (OrderedMap.traverse_eq_ok h).2 name schema hschema
  obtain ⟨fields, hfields, he⟩ := bind_eq_ok.1 hfound
  cases he
  rcases List.mem_append.1 ht with ht | ht
  · cases Option.mem_toList.1 ht
    rw [TypeDescriptor.schemaNames, List.cons_subset]
    exact ⟨List.mem_cons_self, List.nil_subset _⟩
  · obtain ⟨field, hfield, rfl⟩ := List.mem_map.1 ht
    obtain ⟨declarations, -, hfields⟩ := bind_eq_ok.1 hfields
    obtain ⟨d, -, hd⟩ := exists_of_mem_mapM hfields hfield
    obtain ⟨type, htype, hd⟩ := bind_eq_ok.1 hd
    obtain ⟨fieldName, -, hd⟩ := bind_eq_ok.1 hd
    cases hd
    exact List.subset_cons_of_subset name (schemaNames_typeOf hs htype)

theorem schemaNames_paramOf (hs : s.encoder = Encoder.structural) {location : Location}
    {parameter : Parameter} {param : Param} (h : s.paramOf names location parameter = .ok param) :
    param.type.schemaNames ⊆ names.values := by
  obtain ⟨type, htype, he⟩ := bind_eq_ok.1 h
  cases he
  exact schemaNames_typeOf hs htype

theorem schemaNames_classify (hs : s.encoder = Encoder.structural) {path : String}
    {parameters : List Parameter} {operationId : Option String} {inPath inQuery : List Param}
    (h : s.classify names path parameters operationId = .ok (inPath, inQuery)) :
    ∀ param, param ∈ inPath ∨ param ∈ inQuery → param.type.schemaNames ⊆ names.values := by
  obtain ⟨inPath', hpath, h⟩ := bind_eq_ok.1 h
  obtain ⟨inQuery', hquery, h⟩ := bind_eq_ok.1 h
  cases h
  rintro param (hparam | hparam)
  · obtain ⟨placeholder, -, hp⟩ := exists_of_mem_mapM hpath hparam
    unfold pathParam at hp
    split at hp
    · cases hp
    · exact schemaNames_paramOf hs hp
  · obtain ⟨parameter, -, hp⟩ := exists_of_mem_mapM hquery hparam
    exact schemaNames_paramOf hs hp

theorem schemaNames_bodyTypes (hs : s.encoder = Encoder.structural) {e : Endpoint}
    {types : List (String × TypeDescriptor)} (h : s.bodyTypes names e = .ok types) :
    ∀ entry ∈ types, entry.2.schemaNames ⊆ names.values := by
  obtain ⟨unsorted, hunsorted, h⟩ := bind_eq_ok.1 h
  cases h
  intro entry hentry
  obtain ⟨m, -, hm⟩ := exists_of_mem_mapM hunsorted (List.mem_mergeSort.1 hentry)
  obtain ⟨type, htype, hm⟩ := bind_eq_ok.1 hm
  cases hm
  exact schemaNames_typeOf hs htype

theorem schemaNames_responseTypes (hs : s.encoder = Encoder.structural) {e : Endpoint}
    {types : OrderedMap String (Option TypeDescriptor)}
    (h : s.responseTypes names e = .ok types) :
    ∀ t ∈ types.values.reduceOption, t.schemaNames ⊆ names.values := by
  intro t ht
  obtain ⟨status, hstatus⟩ := OrderedMap.mem_values_iff.1 (List.reduceOption_mem_iff.1 ht)
  obtain ⟨r, -, hr⟩ := (OrderedMap.traverse_eq_ok h).2 status (some t) hstatus
  unfold responseType at hr
  split at hr
  · cases hr
  split at hr
  · cases hr
  split at hr
  · cases hr
    exact List.nil_subset _
  · obtain ⟨type, htype, he⟩ := map_eq_ok.1 hr
    cases he
    exact schemaNames_typeOf hs htype

/-- The types of the operations of an endpoint name collected schemas. -/
theorem schemaNames_operationsOf (hs : s.encoder = Encoder.structural) {e : Endpoint}
    {operations : List Operation} (h : (s.operationsOf names e).outcome = .ok operations)
    {op : Operation} (hop : op ∈ operations) (ht : t ∈ op.types) :
    t.schemaNames ⊆ names.values := by
  unfold operationsOf at h
  obtain ⟨requestBody, hbody, h⟩ := Logged.outcome_bind_eq_ok.1 h
  obtain ⟨responses, hresponses, h⟩ := Logged.outcome_bind_eq_ok.1 h
  obtain ⟨⟨pathParams, queryParams⟩, hparams, h⟩ := Logged.outcome_bind_eq_ok.1 h
  obtain ⟨homes, -, h⟩ := Logged.outcome_bind_eq_ok.1 h
  cases h
  obtain ⟨home, -, rfl⟩ := List.mem_map.1 hop
  simp only [Operation.types, List.mem_append] at ht
  rcases ht with ((ht | ht) | ht) | ht
  · obtain ⟨param, hparam, rfl⟩ := List.mem_map.1 ht
    exact schemaNames_classify hs hparams param (.inl hparam)
  · obtain ⟨param, hparam, rfl⟩ := List.mem_map.1 ht
    exact schemaNames_classify hs hparams param (.inr hparam)
  · obtain ⟨entry, hentry, rfl⟩ := List.mem_map.1 ht
    exact schemaNames_bodyTypes hs hbody entry hentry
  · exact schemaNames_responseTypes hs hresponses t ht

namespace Stages

variable (t : s.Stages) {m : ModuleName} {unit : FileUnit}

/-- A file holds schemas and operations of the run only. -/
def Holds (unit : FileUnit) : Prop :=
  unit.schemas ⊆ t.schemas.values ∧ unit.operations ⊆ t.operations

theorem holds_of_schemaFiles (h : t.plan.schemaFiles.get? m = some unit) : t.Holds unit := by
  obtain ⟨schema, hschema, rfl⟩ := Config.exists_of_get?_schemaFiles _ h
  rw [t.target_schemaUnit hschema] at h
  have hget := t.get?_schemaFiles (m := ⟨[schema.finalName], false⟩) rfl
  obtain ⟨found, hfound, rfl⟩ := Option.map_eq_some_iff.1 (hget.symm.trans h)
  have hmem := (t.schemaAt_eq_some_iff.1 hfound).1
  exact ⟨List.cons_subset.2 ⟨hmem, List.nil_subset _⟩, List.nil_subset _⟩

theorem homedAt_subset : homedAt t.operations m ⊆ t.operations := fun _ hop => (mem_homedAt.1 hop).1

theorem holds_of_operationFiles (h : t.plan.operationFiles.get? m = some unit) : t.Holds unit := by
  have hget := (Config.get?_operationFiles s.config t.operations m).symm.trans h
  split at hget
  · cases hget
  · cases hget
    exact ⟨List.nil_subset _, t.homedAt_subset⟩

theorem holds_moduleInterface : t.Holds (s.config.moduleInterface t.operations m) :=
  ⟨List.nil_subset _, t.homedAt_subset⟩

theorem holds_of_interfaceFiles (h : t.plan.interfaceFiles.get? m = some unit) :
    t.Holds unit := by
  obtain ⟨hi, op, hop, rfl⟩ :=
    (Config.mem_keys_interfaceFiles s.config).1 (OrderedMap.mem_keys_iff.2 ⟨unit, h⟩)
  have hget := (Config.get?_interfaceFiles s.config hi t.operations op.home).symm.trans h
  split at hget
  · cases hget
  · cases hget
    exact t.holds_moduleInterface

theorem holds_of_files (h : t.plan.files.get? m = some unit) : t.Holds unit := by
  rcases t.get?_files_cases h with ⟨hm, rfl⟩ | ⟨op, hop, rfl, rfl⟩
  · refine ⟨fun schema hschema => ?_, t.homedAt_subset⟩
    exact (t.schemaAt_eq_some_iff.1 (Option.mem_toList.1 hschema)).1
  · exact t.holds_moduleInterface

/-- All types of a plan are those of its schemas and operations. -/
theorem mem_types {type : TypeDescriptor} (h : type ∈ t.plan.types) :
    (∃ schema ∈ t.schemas.values, type ∈ schema.types) ∨
      ∃ op ∈ t.operations, type ∈ op.types := by
  rcases List.mem_append.1 h with h | h
  · rcases List.mem_append.1 h with h | h
    · exact .inl (List.mem_flatMap.1 h)
    · exact .inr (List.mem_flatMap.1 h)
  · obtain ⟨files, hfiles, htype⟩ := List.mem_flatMap.1 h
    obtain ⟨unit, hunit, htype⟩ := List.mem_flatMap.1 htype
    obtain ⟨m, hm⟩ := OrderedMap.mem_values_iff.1 hunit
    have hholds : t.Holds unit := by
      simp only [List.mem_cons, List.not_mem_nil, or_false] at hfiles
      rcases hfiles with rfl | rfl | rfl | rfl
      · exact t.holds_of_schemaFiles hm
      · exact t.holds_of_operationFiles hm
      · exact t.holds_of_interfaceFiles hm
      · exact t.holds_of_files hm
    rcases List.mem_append.1 htype with htype | htype
    · obtain ⟨schema, hschema, htype⟩ := List.mem_flatMap.1 htype
      exact .inl ⟨schema, hholds.1 hschema, htype⟩
    · obtain ⟨op, hop, htype⟩ := List.mem_flatMap.1 htype
      exact .inr ⟨op, hholds.2 hop, htype⟩

/-- The names that identities get are those of the schemas. -/
theorem values_names_subset : t.found.names.values ⊆ t.schemas.keys := by
  intro name hname
  obtain ⟨identity, hidentity⟩ := OrderedMap.mem_values_iff.1 hname
  obtain ⟨log, hlog⟩ := recorded_of_discover t.discovered
  obtain ⟨schema, hschema, -⟩ := (hlog.namesGrouped.identities identity name).1 hidentity
  rw [(OrderedMap.traverse_eq_ok t.described).1]
  exact OrderedMap.mem_keys_iff.2 ⟨schema, hschema⟩

/-- With the structural encoder, types name schemas of the plan only. -/
theorem schemaNames_subset (hs : s.encoder = Encoder.structural) {type : TypeDescriptor}
    (h : type ∈ t.plan.types) : type.schemaNames ⊆ t.schemas.keys := by
  rcases t.mem_types h with ⟨schema, hschema, htype⟩ | ⟨op, hop, htype⟩
  · -- The type of a schema names the schema itself, under its key.
    obtain ⟨name, hname⟩ := OrderedMap.mem_values_iff.1 hschema
    refine List.Subset.trans (schemaNames_describe hs t.described hname htype) ?_
    exact List.cons_subset.2
      ⟨OrderedMap.mem_keys_iff.2 ⟨schema, hname⟩, t.values_names_subset⟩
  · obtain ⟨e, -, -, own, hown, hop⟩ := exists_of_mem_operationsOfAll t.built hop
    exact List.Subset.trans (schemaNames_operationsOf hs hown hop htype) t.values_names_subset

/-- A schema of the plan is in the file of the module with its name. -/
theorem exists_file_of_schema {name : String} {schema : Schema}
    (h : t.schemas.get? name = some schema) :
    ∃ unit, t.plan.files.get? ⟨[name], false⟩ = some unit ∧ schema ∈ unit.schemas := by
  have hmem : schema ∈ t.schemas.values := OrderedMap.mem_values_iff.2 ⟨name, h⟩
  have hname : schema.finalName = name := (t.finalName_eq h).1
  have hconcrete : t.plan.IsConcrete ⟨[name], false⟩ := .inl ⟨schema, hmem, by rw [hname]⟩
  refine ⟨_, t.get?_files_of_isConcrete hconcrete, ?_⟩
  exact Option.mem_toList.2 (t.schemaAt_eq_some_iff.2 ⟨hmem, by rw [hname]⟩)

end Stages

end Setting

/-- At the end of a run with the structural encoder, every schema that is named in a type is a
schema of the plan and is in the file of its module. -/
theorem exists_file_of_mem_schemaNames {s : Setting} {p : PlanState}
    (hs : s.encoder = Encoder.structural) (h : s.start.run.outcome = .ok p) :
    ∀ t ∈ p.types, ∀ name ∈ t.schemaNames, ∃ schema, p.schemas.get? name = some schema ∧
      ∃ unit, p.files.get? ⟨[name], false⟩ = some unit ∧ schema ∈ unit.schemas := by
  obtain ⟨t, rfl⟩ := Setting.run_eq_ok_iff.1 h
  intro type htype name hname
  obtain ⟨schema, hschema⟩ := OrderedMap.mem_keys_iff.1 (t.schemaNames_subset hs htype hname)
  exact ⟨schema, hschema, t.exists_file_of_schema hschema⟩

/-- Pets are named in the types of their friends, of their twins and of what is answered, and they
have a file. -/
theorem exists_file_of_pets : ∃ (s : Setting) (p : PlanState), s.encoder = Encoder.structural ∧
    s.start.run.outcome = .ok p ∧ 3 ≤ (p.types.filter fun t => "Pet" ∈ t.schemaNames).length ∧
    ∃ schema, p.schemas.get? "Pet" = some schema ∧
      ∃ unit, p.files.get? ⟨["Pet"], false⟩ = some unit ∧ schema ∈ unit.schemas := by
  obtain ⟨api, p, -, hrun, htest⟩ := Setting.exists_run petDocument "3.0.3" structuralSetting 8
    (fun p => decide (3 ≤ (p.types.filter fun t => "Pet" ∈ t.schemaNames).length))
    (fun _ => rfl) (by decide +kernel)
  have hlength := of_decide_eq_true htest
  obtain ⟨t, ht⟩ := List.exists_mem_of_length_pos (Nat.lt_of_lt_of_le (by decide) hlength)
  obtain ⟨htypes, hname⟩ := List.mem_filter.1 ht
  exact ⟨structuralSetting api, p, rfl, hrun, hlength,
    exists_file_of_mem_schemaNames rfl hrun t htypes "Pet" (of_decide_eq_true hname)⟩

end ClientPlan
