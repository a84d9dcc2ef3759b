import ClientPlan.Proofs.Plan.Blocks
import ClientPlan.Proofs.Plan.Files
import ClientPlan.Proofs.Plan.Run

/-!
# The files of a run

At the end of a run every collected schema and every operation is in exactly one file that is no
interface: the file of its module.  `PlanState.concreteFile` says what that file is; together with
the interface files these are all files there are (`get?_files_cases`).
-/

set_option autoImplicit false

namespace ClientPlan

/-! ## Homes of operations -/

namespace Setting

variable {s : Setting} {names : SchemaNames} {operations : List Operation} {op : Operation}

theorem qualified_homeModule (path : List String) : (s.homeModule path).qualified = false := by
  unfold homeModule
  split <;> rfl

theorem qualified_of_mem_operationsOf {e : Endpoint}
    (h : (s.operationsOf names e).outcome = .ok operations) (hop : op ∈ operations) :
    op.home.qualified = false := by
  unfold operationsOf at h
  obtain ⟨requestBody, -, h⟩ := Logged.outcome_bind_eq_ok.1 h
  obtain ⟨responses, -, h⟩ := Logged.outcome_bind_eq_ok.1 h
  obtain ⟨⟨pathParams, queryParams⟩, -, h⟩ := Logged.outcome_bind_eq_ok.1 h
  obtain ⟨homes, -, h⟩ := Logged.outcome_bind_eq_ok.1 h
  cases h
  obtain ⟨home, -, rfl⟩ := List.mem_map.1 hop
  exact qualified_homeModule home.modules

/-- No operation is at home in a module with the base module in front. -/
theorem qualified_of_mem_operationsOfAll {endpoints : List Endpoint}
    (h : (s.operationsOfAll names endpoints).outcome = .ok operations) (hop : op ∈ operations) :
    op.home.qualified = false := by
  obtain ⟨e, -, -, own, hown, hop⟩ := exists_of_mem_operationsOfAll h hop
  exact qualified_of_mem_operationsOf hown hop

/-! ## Names of described schemas -/

/-- A described schema has the name of its entry, which is made of letters and digits. -/
theorem finalName_of_describe {f : Found} {schemas : SchemaMap}
    (hf : s.discover OrderedMap.empty OrderedMap.empty = .ok f)
    (hd : s.describe f.schemas f.names = .ok schemas) {name : String} {schema : Schema}
    (h : schemas.get? name = some schema) :
    schema.finalName = name ∧ name ≠ "" ∧ ∀ c ∈ name.toList, c.isAlphanum = true := by
  obtain ⟨log, hlog⟩ := recorded_of_discover hf
  have hgrouped := hlog.namesGrouped
  obtain ⟨hkeys, hvalues⟩ := OrderedMap.traverse_eq_ok hd
  obtain ⟨found, hfound, hschema⟩ := hvalues name schema h
  obtain ⟨fields, -, he⟩ := bind_eq_ok.1 hschema
  cases he
  have hname : name ∈ f.schemas.keys := OrderedMap.mem_keys_iff.2 ⟨found, hfound⟩
  exact ⟨hgrouped.finalName name found hfound, hgrouped.alphanumeric name hname⟩

/-- The file of a described schema belongs to the module with the name of the schema only. -/
theorem target_schemaUnit_of_describe {f : Found} {schemas : SchemaMap}
    (hf : s.discover OrderedMap.empty OrderedMap.empty = .ok f)
    (hd : s.describe f.schemas f.names = .ok schemas) {schema : Schema}
    (h : schema ∈ schemas.values) :
    (s.config.schemaUnit schema).target = ⟨[schema.finalName], false⟩ := by
  obtain ⟨name, hname⟩ := OrderedMap.mem_values_iff.1 h
  obtain ⟨rfl, hne, halnum⟩ := finalName_of_describe hf hd hname
  exact ModuleName.ofDotted_of_isAlphanum hne halnum

/-- A run whose schemas can be described and whose operations can be built succeeds if no interface
has the module of an operation. -/
theorem exists_stages {f : Found} {schemas : SchemaMap}
    (hf : s.discover OrderedMap.empty OrderedMap.empty = .ok f)
    (hd : s.describe f.schemas f.names = .ok schemas)
    (ho : (s.operations f.names).outcome = .ok operations)
    (hapart : s.config.interfaces = true → ∀ op ∈ operations, op.home.segments ≠ [] ∧
      ∀ op' ∈ operations, op'.home ≠ op.home.child s.config.interfaceSuffix) :
    ∃ t : s.Stages, t.found = f ∧ t.schemas = schemas ∧ t.operations = operations := by
  have hreconcile : ∃ files, reconcile (s.config.schemaFiles schemas.values)
      (s.config.operationFiles operations) (s.config.interfaceFiles operations) = .ok files := by
    refine exists_reconcile fun m hm => ?_
    obtain ⟨hi, op, hop, rfl⟩ := (Config.mem_keys_interfaceFiles _).1 hm
    obtain ⟨hne, hother⟩ := hapart hi op hop
    constructor
    · cases hunit : (s.config.schemaFiles schemas.values).get?
          (op.home.child s.config.interfaceSuffix) with
      | none => rfl
      | some unit =>
        obtain ⟨schema, hschema, htarget⟩ := Config.exists_of_get?_schemaFiles _ hunit
        rw [target_schemaUnit_of_describe hf hd hschema] at htarget
        have hlength := congrArg (fun m => m.segments.length) htarget
        simp only [ModuleName.child, List.length_append, List.length_singleton] at hlength
        exact absurd (List.length_eq_zero_iff.1 (by omega)) hne
    · rw [Config.get?_operationFiles, if_pos]
      refine List.filter_eq_nil_iff.2 fun op' hop' => ?_
      simpa using hother op' hop'
  obtain ⟨files, hfiles⟩ := hreconcile
  exact ⟨⟨f, schemas, operations, files, hf, hd, ho, hfiles⟩, rfl, rfl, rfl⟩

namespace Stages

variable (t : s.Stages)

theorem finalName_eq {name : String} {schema : Schema} (h : t.schemas.get? name = some schema) :
    schema.finalName = name ∧ name ≠ "" ∧ ∀ c ∈ name.toList, c.isAlphanum = true :=
  finalName_of_describe t.discovered t.described h

theorem exists_of_mem_values {schema : Schema} (h : schema ∈ t.schemas.values) :
    t.schemas.get? schema.finalName = some schema := by
  obtain ⟨name, hname⟩ := OrderedMap.mem_values_iff.1 h
  rw [(t.finalName_eq hname).1]
  exact hname

theorem target_schemaUnit {schema : Schema} (h : schema ∈ t.schemas.values) :
    (s.config.schemaUnit schema).target = ⟨[schema.finalName], false⟩ :=
  target_schemaUnit_of_describe t.discovered t.described h

theorem map_finalName_values : t.schemas.values.map Schema.finalName = t.schemas.keys := by
  rw [OrderedMap.values, OrderedMap.keys, List.map_map]
  refine List.map_congr_left fun e he => ?_
  exact (t.finalName_eq (OrderedMap.get?_eq_some_iff.2 he)).1

end Stages

end Setting

/-! ## Files of modules -/

/-- At most one of some values with distinct names has a property that determines the name. -/
theorem filter_eq_toList_find? {α β : Type} {f : α → β} {P : α → Bool} {l : List α}
    (hl : (l.map f).Nodup) (hP : ∀ a b, P a = true → P b = true → f a = f b) :
    l.filter P = (l.find? P).toList := by
  induction l with
  | nil => rfl
  | cons a r ih =>
    rw [List.map_cons, List.nodup_cons] at hl
    by_cases ha : P a = true
    · have hr : r.filter P = [] := by
        refine List.filter_eq_nil_iff.2 fun b hb hPb => ?_
        exact hl.1 (hP a b ha hPb ▸ List.mem_map_of_mem hb)
      rw [List.filter_cons_of_pos ha, List.find?_cons_of_pos ha, hr]
      rfl
    · rw [List.filter_cons_of_neg ha, List.find?_cons_of_neg ha, ih hl.2]

namespace PlanState

/-- The collected schema whose name is the only segment of a module. -/
def schemaAt (p : PlanState) (m : ModuleName) : Option Schema :=
  p.schemas.values.find? fun schema => m.segments = [schema.finalName]

/-- The operations at home in a module. -/
def operationsAt (p : PlanState) (m : ModuleName) : List Operation := homedAt p.operations m

/-- What the schema of a file needs. -/
def schemaDirectives (p : PlanState) (schema? : Option Schema) : List String :=
  match schema? with
  | none => []
  | some schema => givenList p.config.schemaUse ++ schema.directives

/-- The file of a module that is no interface. -/
def concreteFile (p : PlanState) (m : ModuleName) : FileUnit :=
  { name :=
      if p.operationsAt m = [] then
        fileName [p.config.baseLocation, p.config.schemaLocation] m
      else p.config.operationFileName m
    target := m
    operations := p.operationsAt m
    schemas := (p.schemaAt m).toList
    directives :=
      (if p.operationsAt m = [] then [] else givenList p.config.defaultClient) ++
        p.schemaDirectives (p.schemaAt m) }

/-- A module that a collected schema or an operation is at home in. -/
def IsConcrete (p : PlanState) (m : ModuleName) : Prop :=
  (∃ schema ∈ p.schemas.values, m = ⟨[schema.finalName], false⟩) ∨ ∃ op ∈ p.operations, m = op.home

/-- The module of an interface. -/
def IsInterface (p : PlanState) (m : ModuleName) : Prop :=
  p.config.interfaces = true ∧ ∃ op ∈ p.operations, m = op.home.child p.config.interfaceSuffix

end PlanState

theorem mergeInto_moduleFile (c : Config) (operations : List Operation) (m : ModuleName)
    (schema? : Option Schema) :
    FileUnit.mergeInto (schema?.map c.schemaUnit) (c.moduleFile operations m) =
      { c.moduleFile operations m with
        schemas := schema?.toList
        directives := givenList c.defaultClient ++
          (match schema? with
            | none => []
            | some schema => givenList c.schemaUse ++ schema.directives) } := by
  cases schema? with
  | none => simp [FileUnit.mergeInto, Config.moduleFile]
  | some schema => rfl

namespace Setting.Stages

variable {s : Setting} (t : s.Stages) {m : ModuleName}

theorem qualified_home {op : Operation} (hop : op ∈ t.operations) : op.home.qualified = false :=
  qualified_of_mem_operationsOfAll t.built hop

theorem qualified_of_isConcrete (h : t.plan.IsConcrete m) : m.qualified = false := by
  rcases h with ⟨schema, -, rfl⟩ | ⟨op, hop, rfl⟩
  · rfl
  · exact t.qualified_home hop

/-- The schema file of a module is that of the schema with its only segment as name. -/
theorem get?_schemaFiles (hm : m.qualified = false) :
    (s.config.schemaFiles t.schemas.values).get? m =
      (t.plan.schemaAt m).map s.config.schemaUnit := by
  refine Config.get?_schemaFiles _ ?_
  have hsegments : (t.schemas.values.filter fun schema =>
      (s.config.schemaUnit schema).target = m) =
        t.schemas.values.filter fun schema => m.segments = [schema.finalName] := by
    refine List.filter_congr fun schema hschema => ?_
    rw [t.target_schemaUnit hschema, decide_eq_decide]
    constructor
    · rintro rfl
      rfl
    · intro h
      cases m
      cases h
      cases hm
      rfl
  rw [hsegments]
  have hnodup : (t.schemas.values.map Schema.finalName).Nodup := by
    rw [t.map_finalName_values]
    exact t.schemas.nodup
  refine filter_eq_toList_find? hnodup fun a b ha hb => ?_
  have ha : m.segments = [a.finalName] := of_decide_eq_true ha
  have hb : m.segments = [b.finalName] := of_decide_eq_true hb
  rw [ha] at hb
  exact (List.cons.inj hb).1

theorem operationsAt_ne_nil_iff :
    t.plan.operationsAt m ≠ [] ↔ ∃ op ∈ t.operations, m = op.home := by
  constructor
  · intro h
    obtain ⟨op, hop⟩ := List.exists_mem_of_ne_nil _ h
    obtain ⟨hmem, rfl⟩ := mem_homedAt.1 hop
    exact ⟨op, hmem, rfl⟩
  · rintro ⟨op, hop, rfl⟩
    exact List.ne_nil_of_mem (mem_homedAt.2 ⟨hop, rfl⟩)

theorem schemaAt_isSome_iff (hm : m.qualified = false) :
    (t.plan.schemaAt m).isSome = true ↔
      ∃ schema ∈ t.schemas.values, m = ⟨[schema.finalName], false⟩ := by
  rw [PlanState.schemaAt, List.find?_isSome]
  refine exists_congr fun schema => and_congr Iff.rfl ?_
  rw [decide_eq_true_iff]
  constructor
  · intro h
    cases m
    cases h
    cases hm
    rfl
  · rintro rfl
    rfl

theorem isConcrete_iff (hm : m.qualified = false) :
    t.plan.IsConcrete m ↔ (t.plan.schemaAt m).isSome = true ∨ t.plan.operationsAt m ≠ [] := by
  rw [t.schemaAt_isSome_iff hm, t.operationsAt_ne_nil_iff]
  exact Iff.rfl

/-- A module that a schema or an operation is at home in has no interface file. -/
theorem get?_interfaceFiles_eq_none (h : t.plan.IsConcrete m) :
    (s.config.interfaceFiles t.operations).get? m = none := by
  have hm := t.qualified_of_isConcrete h
  rw [OrderedMap.get?_eq_none_iff]
  intro hkey
  obtain ⟨hschema, hoperation⟩ := (get?_reconcile t.reconciled m).1 hkey
  rw [t.get?_schemaFiles hm, Option.map_eq_none_iff] at hschema
  rw [Config.get?_operationFiles] at hoperation
  rcases (t.isConcrete_iff hm).1 h with hsome | hne
  · rw [hschema] at hsome
    cases hsome
  · rw [if_neg (show ¬ homedAt t.operations m = [] from hne)] at hoperation
    cases hoperation

/-- The file of a module that a schema or an operation is at home in. -/
theorem get?_files_of_isConcrete (h : t.plan.IsConcrete m) :
    t.plan.files.get? m = some (t.plan.concreteFile m) := by
  have hm := t.qualified_of_isConcrete h
  have hget := (get?_reconcile t.reconciled m).2
  rw [t.get?_interfaceFiles_eq_none h, Config.get?_operationFiles, t.get?_schemaFiles hm] at hget
  refine hget.trans ?_
  by_cases hl : homedAt t.operations m = []
  · rw [if_pos hl]
    have hsome := ((t.isConcrete_iff hm).1 h).resolve_right (not_not_intro hl)
    obtain ⟨schema, hschema⟩ := Option.isSome_iff_exists.1 hsome
    have hmem : schema ∈ t.schemas.values := List.mem_of_find?_eq_some hschema
    have htarget : (s.config.schemaUnit schema).target = m := by
      rw [t.target_schemaUnit hmem]
      have hsegments : m.segments = [schema.finalName] := by
        simpa using List.find?_some hschema
      cases m
      cases hsegments
      cases hm
      rfl
    have hop : t.plan.operationsAt m = [] := hl
    rw [hschema, PlanState.concreteFile, hop, hschema, if_pos rfl, if_pos rfl, ← htarget]
    rfl
  · have hop : ¬ t.plan.operationsAt m = [] := hl
    rw [if_neg hl, PlanState.concreteFile, if_neg hop, if_neg hop]
    dsimp only
    rw [mergeInto_moduleFile]
    cases t.plan.schemaAt m <;> rfl

/-- The interface file of a module that operations are at home in, if interfaces are wanted. -/
theorem get?_files_of_interface (hi : s.config.interfaces = true) {op : Operation}
    (hop : op ∈ t.operations) :
    t.plan.files.get? (op.home.child s.config.interfaceSuffix) =
      some (s.config.moduleInterface t.operations op.home) := by
  have hne : homedAt t.operations op.home ≠ [] :=
    List.ne_nil_of_mem (mem_homedAt.2 ⟨hop, rfl⟩)
  have hget := (get?_reconcile t.reconciled (op.home.child s.config.interfaceSuffix)).2
  rw [Config.get?_interfaceFiles _ hi, if_neg hne] at hget
  exact hget

/-- There are no other files. -/
theorem isConcrete_or_isInterface (h : m ∈ t.plan.files.keys) :
    t.plan.IsConcrete m ∨ t.plan.IsInterface m := by
  obtain ⟨unit, hunit⟩ := OrderedMap.mem_keys_iff.1 h
  have hget := (get?_reconcile t.reconciled m).2
  by_cases hi : m ∈ (s.config.interfaceFiles t.operations).keys
  · exact .inr (Config.mem_keys_interfaceFiles _ |>.1 hi)
  · refine .inl ?_
    rw [OrderedMap.get?_eq_none_iff.2 hi, show t.files.get? m = some unit from hunit,
      Config.get?_operationFiles] at hget
    by_cases hl : homedAt t.operations m = []
    · rw [if_pos hl] at hget
      obtain ⟨schema, hschema, htarget⟩ := Config.exists_of_get?_schemaFiles _ hget.symm
      rw [t.target_schemaUnit hschema] at htarget
      exact .inl ⟨schema, hschema, htarget.symm⟩
    · exact .inr (t.operationsAt_ne_nil_iff.1 hl)

/-- What every file is. -/
theorem get?_files_cases {unit : FileUnit} (h : t.plan.files.get? m = some unit) :
    t.plan.IsConcrete m ∧ unit = t.plan.concreteFile m ∨
      ∃ op ∈ t.operations, m = op.home.child s.config.interfaceSuffix ∧
        unit = s.config.moduleInterface t.operations op.home := by
  rcases t.isConcrete_or_isInterface (OrderedMap.mem_keys_iff.2 ⟨unit, h⟩) with
    hm | ⟨hi, op, hop, rfl⟩
  · exact .inl ⟨hm, Option.some.inj (h.symm.trans (t.get?_files_of_isConcrete hm))⟩
  · exact .inr ⟨op, hop, rfl, Option.some.inj (h.symm.trans (t.get?_files_of_interface hi hop))⟩

theorem schemaAt_eq_some_iff {schema : Schema} :
    t.plan.schemaAt m = some schema ↔
      schema ∈ t.plan.schemas.values ∧ m.segments = [schema.finalName] := by
  have hfind (h : t.plan.schemaAt m = some schema) : m.segments = [schema.finalName] := by
    simpa using List.find?_some h
  constructor
  · intro h
    exact ⟨List.mem_of_find?_eq_some h, hfind h⟩
  · rintro ⟨hschema, hm⟩
    cases hfound : t.plan.schemaAt m with
    | none =>
      have := List.find?_eq_none.1 hfound schema hschema
      simp [hm] at this
    | some other =>
      have hother : other ∈ t.schemas.values := List.mem_of_find?_eq_some hfound
      have hname : other.finalName = schema.finalName := by
        have hsegments : m.segments = [other.finalName] := by simpa using List.find?_some hfound
        rw [hm] at hsegments
        exact (List.cons.inj hsegments).1.symm
      have hget := t.exists_of_mem_values hother
      rw [hname, t.exists_of_mem_values hschema] at hget
      exact hget.symm

end Setting.Stages

/-! ## All files -/

/-- Every schema and every operation is in the file of its module, and in no other file than its
interface. -/
structure PlanState.FilesComplete (p : PlanState) : Prop where
  /-- There is a file for each module of a schema or an operation and for each interface. -/
  keys : ∀ m, m ∈ p.files.keys ↔ p.IsConcrete m ∨ p.IsInterface m
  /-- A file belongs to the module at which it stands, without the base module. -/
  target : ∀ m unit, p.files.get? m = some unit → m.qualified = false ∧ unit.target = m
  /-- At most one schema has the only segment of a module as its name. -/
  schemaAt : ∀ m schema, p.schemaAt m = some schema ↔
    schema ∈ p.schemas.values ∧ m.segments = [schema.finalName]
  /-- The file of a module holds its operations in order and its schema, with what they need. -/
  concrete : ∀ m, p.IsConcrete m → ∃ unit, p.files.get? m = some unit ∧
    unit.operations = (p.operations.filter fun op => op.home = m) ∧
    unit.schemas = (p.schemaAt m).toList ∧
    unit.isInterface = false ∧
    unit.directives =
      (if ∃ op ∈ p.operations, m = op.home then givenList p.config.defaultClient else []) ++
        (match p.schemaAt m with
          | none => []
          | some schema => givenList p.config.schemaUse ++ schema.directives)
  /-- The interface file of a module holds the operations of the file of the module. -/
  interface : p.config.interfaces = true → ∀ op ∈ p.operations, ∃ unit concrete,
    p.files.get? (op.home.child p.config.interfaceSuffix) = some unit ∧
    p.files.get? op.home = some concrete ∧
    unit.isInterface = true ∧ unit.schemas = [] ∧ unit.operations = concrete.operations

/-- At the end of every run the files are complete. -/
theorem filesComplete_of_run {s : Setting} {p : PlanState} (h : s.start.run.outcome = .ok p) :
    p.FilesComplete := by
  obtain ⟨t, rfl⟩ := Setting.run_eq_ok_iff.1 h
  refine ⟨?_, ?_, fun m schema => t.schemaAt_eq_some_iff, ?_, ?_⟩
  · intro m
    constructor
    · exact t.isConcrete_or_isInterface
    · rintro (hm | ⟨hi, op, hop, rfl⟩)
      · exact OrderedMap.mem_keys_iff.2 ⟨_, t.get?_files_of_isConcrete hm⟩
      · exact OrderedMap.mem_keys_iff.2 ⟨_, t.get?_files_of_interface hi hop⟩
  · intro m unit hunit
    rcases t.get?_files_cases hunit with ⟨hm, rfl⟩ | ⟨op, hop, rfl, rfl⟩
    · exact ⟨t.qualified_of_isConcrete hm, rfl⟩
    · exact ⟨t.qualified_home hop, rfl⟩
  · intro m hm
    refine ⟨_, t.get?_files_of_isConcrete hm, rfl, rfl, rfl, ?_⟩
    show (if t.plan.operationsAt m = [] then _ else _) ++ _ = _
    by_cases hop : ∃ op ∈ t.plan.operations, m = op.home
    · rw [if_pos hop, if_neg (t.operationsAt_ne_nil_iff.2 hop)]
      rfl
    · rw [if_neg hop, if_pos (by_contra fun hne => hop (t.operationsAt_ne_nil_iff.1 hne))]
      rfl
  · intro hi op hop
    have hconcrete : t.plan.IsConcrete op.home := .inr ⟨op, hop, rfl⟩
    exact ⟨_, _, t.get?_files_of_interface hi hop, t.get?_files_of_isConcrete hconcrete, rfl, rfl,
      rfl⟩

/-- A response that is a pet. -/
def petResponse : Value :=
  .ofFields [("200", .ofFields [("content", .ofFields [("application/json", .ofFields [
    ("schema", refTo "pet")])])])]

/-- A document of a shop, in which operations on pets share the module of the schema of a pet. -/
def shopDocument : Value :=
  .ofFields [
    ("paths", .ofFields [("/pets", .ofFields [
      ("get", .ofFields [("operationId", .str "listPets"),
        ("tags", .list [.str "pet", .str "store"]), ("responses", petResponse)]),
      ("post", .ofFields [("operationId", .str "addPet"), ("tags", .list [.str "pet"]),
        ("responses", petResponse)])])]),
    ("components", .ofFields [("schemas", .ofFields [
      ("pet", .ofFields [("type", .str "object")])])])]

/-- The plan of a description with interfaces and directives, with all types left open. -/
def interfaceSetting (api : Api) : Setting :=
  { defaultSetting api with
    config := { interfaces := true, defaultClient := some "Client", schemaUse := some "Record" } }

/-- The shop has a file for pets with a schema and two operations, a file for the store and an
interface file for each of them. -/
theorem filesComplete_shop : ∃ (s : Setting) (p : PlanState), s.start.run.outcome = .ok p ∧
    p.FilesComplete ∧
    p.operations.map Operation.home = [⟨["Pet"], false⟩, ⟨["Store"], false⟩, ⟨["Pet"], false⟩] ∧
    (⟨["Pet", "Interface"], false⟩ : ModuleName) ∈ p.files.keys ∧
    ∃ unit, p.files.get? ⟨["Pet"], false⟩ = some unit ∧ unit.operations.length = 2 := by
  let pet : ModuleName := ⟨["Pet"], false⟩
  let store : ModuleName := ⟨["Store"], false⟩
  obtain ⟨api, f, hapi, hf, htest⟩ := Setting.exists_discover shopDocument "3.0.3"
    interfaceSetting 8
    (fun api f => (f.schemas.entries.all fun e => e.2.node.isPlain) &&
      ((interfaceSetting api).operations f.names).outcome.toOption.any fun operations =>
        operations.map Operation.home == [pet, store, pet])
    (fun _ => rfl) (by decide +kernel)
  obtain ⟨hplain, hoperations⟩ := Bool.and_eq_true_iff.1 htest
  obtain ⟨operations, ho, hsame⟩ := toOption_any_eq_true.1 hoperations
  have hhomes : operations.map Operation.home = [pet, store, pet] := eq_of_beq hsame
  have hmem : ∀ op ∈ operations, op.home = pet ∨ op.home = store := by
    intro op hop
    have := List.mem_map_of_mem (f := Operation.home) hop
    rw [hhomes] at this
    simpa [or_comm, or_left_comm] using this
  obtain ⟨schemas, hd⟩ := Setting.exists_describe (interfaceSetting api) f.names
    fun name schema hschema =>
      List.all_eq_true.1 hplain (name, schema) (OrderedMap.get?_eq_some_iff.1 hschema)
  have hapart : ∀ op ∈ operations, op.home.segments ≠ [] ∧
      ∀ op' ∈ operations, op'.home ≠ op.home.child "Interface" := by
    intro op hop
    refine ⟨?_, fun op' hop' => ?_⟩
    · rcases hmem op hop with h | h <;> rw [h] <;> decide
    · rcases hmem op hop with h | h <;> rcases hmem op' hop' with h' | h' <;> rw [h, h'] <;> decide
  obtain ⟨t, -, -, rfl⟩ := Setting.exists_stages hf hd ho fun _ => hapart
  have hrun := Setting.run_eq_ok_iff.2 ⟨t, rfl⟩
  have hcomplete := filesComplete_of_run hrun
  have hpet : pet ∈ t.operations.map Operation.home := by
    rw [hhomes]
    exact List.mem_cons_self
  obtain ⟨op, hop, hhome⟩ := List.mem_map.1 hpet
  obtain ⟨unit, hunit, hunitOperations, -⟩ :=
    hcomplete.concrete pet (.inr ⟨op, hop, hhome.symm⟩)
  refine ⟨interfaceSetting api, t.plan, hrun, hcomplete, hhomes, ?_, unit, hunit, ?_⟩
  · refine (hcomplete.keys _).2 (.inr ⟨rfl, op, hop, ?_⟩)
    rw [hhome]
    rfl
  · have hlength : (t.operations.filter fun op => op.home = pet).length =
        ((t.operations.map Operation.home).filter fun m => m = pet).length := by
      rw [List.filter_map, List.length_map]
      rfl
    rw [hunitOperations]
    refine hlength.trans ?_
    rw [hhomes]
    rfl

end ClientPlan
