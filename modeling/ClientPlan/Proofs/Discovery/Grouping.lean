import ClientPlan.Plan.State
import ClientPlan.Proofs.Discovery.Bounded
import ClientPlan.Proofs.Discovery.Reachable
import ClientPlan.Proofs.Naming.Token

/-!
# Schemas group identities by their names

`Setting.Recorded` is what every visit keeps: the schemas and the names that have been found are
made from one log of registrations, with an entry for each identity.  So the schemas of a plan are
its names grouped by the final name, in the order in which the identities were registered.
-/

set_option autoImplicit false

namespace ClientPlan

namespace Setting

variable {s : Setting} {f f' : Found} {p : Position} {more : List Position}
  {log : List Registration} {r : Registration}

/-! ## Schemas of registrations -/

/-- The directives that come with a registration. -/
def needs (s : Setting) (r : Registration) : List String :=
  (s.policy.schemaDirectives r.candidate).eraseDups

/-- The schema that is begun by the first registration under a name. -/
def begun (s : Setting) (r : Registration) : Schema :=
  { r.candidate with directives := s.needs r }

/-- A schema with one more registration under its name. -/
def continued (s : Setting) (schema : Schema) (r : Registration) : Schema :=
  Found.addIdentity schema r.identity (s.needs r)

/-- The schemas that a list of registrations makes up. -/
def grouped (s : Setting) (log : List Registration) : SchemaMap :=
  log.foldl (OrderedMap.gather Registration.finalName s.begun s.continued) OrderedMap.empty

theorem foldl_continued (l : List Registration) (schema : Schema) :
    (l.foldl s.continued schema).finalName = schema.finalName ∧
      (l.foldl s.continued schema).node = schema.node ∧
      (l.foldl s.continued schema).identities =
        schema.identities ++ l.map Registration.identity := by
  induction l generalizing schema with
  | nil => simp
  | cons r l ih =>
    obtain ⟨hf, hn, hi⟩ := ih (s.continued schema r)
    refine ⟨hf, hn, ?_⟩
    rw [List.foldl_cons, hi, List.map_cons]
    simp [continued, Found.addIdentity]

/-- A schema is begun by the first registration under its name and has the identities of all. -/
theorem get?_grouped_eq_some {name : String} {schema : Schema}
    (h : (s.grouped log).get? name = some schema) :
    ∃ r l, log.filter (fun r => r.finalName = name) = r :: l ∧ r ∈ log ∧ r.finalName = name ∧
      schema.finalName = name ∧ schema.node = r.node ∧
      schema.identities = (log.filter fun r => r.finalName = name).map Registration.identity := by
  rw [grouped, OrderedMap.get?_foldl_gather] at h
  cases hl : log.filter (fun r => r.finalName = name) with
  | nil =>
    rw [hl] at h
    cases h
  | cons r l =>
    rw [hl] at h
    cases h
    have hr : r ∈ log.filter fun r => r.finalName = name := hl ▸ List.mem_cons_self
    obtain ⟨hmem, hname⟩ := List.mem_filter.1 hr
    have hname : r.finalName = name := by simpa using hname
    obtain ⟨hf, hn, hi⟩ := foldl_continued (s := s) l (s.begun r)
    exact ⟨r, l, rfl, hmem, hname, hf.trans hname, hn, hi⟩

theorem get?_grouped_eq_none {name : String} (h : (s.grouped log).get? name = none) :
    ∀ r ∈ log, r.finalName ≠ name := by
  rw [OrderedMap.get?_eq_none_iff, grouped, OrderedMap.keys_foldl_gather] at h
  intro r hr hname
  exact h (List.mem_eraseDups.2 (List.mem_map.2 ⟨r, hr, hname⟩))

/-- Recording a new identity adds it to the log. -/
theorem schemas_record (h : f.schemas = s.grouped log)
    (hnew : r.identity ∉ log.map Registration.identity) :
    (s.record f r).schemas = s.grouped (log ++ [r]) := by
  have hgather : s.grouped (log ++ [r]) =
      OrderedMap.gather Registration.finalName s.begun s.continued (s.grouped log) r := by
    rw [grouped, List.foldl_append]
    rfl
  rw [hgather, OrderedMap.gather, ← h]
  unfold record Found.add
  dsimp only
  have hname : r.candidate.finalName = r.finalName := rfl
  rw [hname]
  cases hs : f.schemas.get? r.finalName with
  | none => rfl
  | some schema =>
    rw [h] at hs
    obtain ⟨-, -, -, -, -, -, -, hi⟩ := get?_grouped_eq_some hs
    have hn : r.identity ∉ schema.identities := by
      rw [hi]
      intro hm
      obtain ⟨r', hr', he⟩ := List.mem_map.1 hm
      exact hnew (List.mem_map.2 ⟨r', (List.mem_filter.1 hr').1, he⟩)
    dsimp only
    rw [if_neg hn]
    rfl

/-! ## The log of a discovery -/

/-- A place that a discovery meets is registered as `r`. -/
def Registers (s : Setting) (r : Registration) : Prop :=
  ∃ p q declared, s.Meets p ∧ s.StandsFor p q declared ∧ r.Describes q declared ∧
    s.admits r = .ok true

/-- What has been found is made from the registrations in a log. -/
structure Recorded (s : Setting) (log : List Registration) (f : Found) : Prop where
  /-- The schemas are the registrations grouped by name. -/
  schemas : f.schemas = s.grouped log
  /-- The names are those of the registrations. -/
  names : f.names.entries = log.map fun r => (r.identity, r.finalName)
  /-- What is registered has been visited. -/
  visited : log.map Registration.identity ⊆ f.visited
  /-- No identity is registered twice. -/
  nodup : (log.map Registration.identity).Nodup
  /-- Every registration comes from a place that is met. -/
  origin : ∀ r ∈ log, s.Registers r

theorem Recorded.visit (h : s.Recorded log f) (i : String) : s.Recorded log (f.visit i) where
  schemas := h.schemas
  names := h.names
  visited := List.Subset.trans h.visited (List.subset_cons_self _ _)
  nodup := h.nodup
  origin := h.origin

theorem Recorded.not_mem (h : s.Recorded log f) {i : String} (hv : i ∉ f.visited) :
    i ∉ log.map Registration.identity := fun hm => hv (h.visited hm)

/-- Recording an identity for the first time adds one registration. -/
theorem Recorded.record (h : s.Recorded log f) (hr : s.Registers r) (hv : r.identity ∉ f.visited) :
    s.Recorded (log ++ [r]) (s.record (f.visit r.identity) r) where
  schemas := schemas_record (h.visit r.identity).schemas (h.not_mem hv)
  names := by
    have hkeys : r.identity ∉ f.names.keys := by
      rw [OrderedMap.keys, h.names, List.map_map]
      exact h.not_mem hv
    show (f.names.insert r.identity r.finalName).entries = _
    rw [OrderedMap.entries_insert_of_not_mem hkeys, h.names, List.map_append, List.map_singleton]
  visited := by
    intro i hi
    rw [List.map_append, List.mem_append, List.map_singleton, List.mem_singleton] at hi
    rcases hi with hi | rfl
    · exact List.mem_cons_of_mem _ (h.visited hi)
    · exact List.mem_cons_self
  nodup := by
    rw [List.map_append, List.map_singleton, List.nodup_append]
    refine ⟨h.nodup, List.nodup_singleton _, ?_⟩
    intro i hi j hj hij
    rw [List.mem_singleton] at hj
    exact h.not_mem hv (hj ▸ hij ▸ hi)
  origin := by
    intro r' hr'
    rcases List.mem_append.1 hr' with hr' | hr'
    · exact h.origin r' hr'
    · rw [List.mem_singleton] at hr'
      exact hr' ▸ hr

/-- A visit of a position that is met keeps or extends the log. -/
theorem Recorded.of_visits (h : s.Recorded log f) (hp : s.Meets p) (hv : s.Visits f p more f') :
    ∃ log', s.Recorded log' f' := by
  cases hv with
  | notMap hmap => exact ⟨log, h⟩
  | again hi hv => exact ⟨log, h⟩
  | dead href hv htarget hmap => exact ⟨log, h.visit _⟩
  | unplaced hq hplace => exact ⟨log, h⟩
  | unnamed hq hplace hv hname => exact ⟨log, h.visit _⟩
  | rejected hq hv hr ha => exact ⟨log, h.visit _⟩
  | recorded hq hv hr ha =>
    rw [← hr.identity] at hv ⊢
    exact ⟨_, h.record ⟨_, _, _, hp, hq, hr, ha⟩ hv⟩

/-- What a discovery that starts from nothing finds is made from a log. -/
theorem recorded_of_discover (h : s.discover OrderedMap.empty OrderedMap.empty = .ok f) :
    ∃ log, s.Recorded log f := by
  have hstart : s.Recorded [] ⟨(OrderedMap.empty : SchemaNames).keys, OrderedMap.empty,
      OrderedMap.empty⟩ :=
    ⟨rfl, rfl, List.nil_subset _, List.nodup_nil, fun r hr => (List.not_mem_nil hr).elim⟩
  refine discover_induction (P := fun _ _ f => ∃ log, s.Recorded log f) ?_ ?_ ?_ ⟨[], hstart⟩ h
  · rintro - p rest f more f' hp ⟨log, hlog⟩ hv
    exact hlog.of_visits hp hv
  · rintro e todo f hlog -
    exact hlog
  · rintro e todo f hlog -
    exact hlog

/-- A discovery that begins a plan records the schemas and names from nothing. -/
theorem discoverSchemas_start_eq_ok {p : PlanState} :
    s.start.discoverSchemas = .ok p ↔ ∃ f, s.discover OrderedMap.empty OrderedMap.empty = .ok f ∧
      p = { s.start with schemas := f.schemas, schemaNames := f.names } := by
  unfold PlanState.discoverSchemas
  rw [bind_eq_ok]
  refine exists_congr fun f => and_congr Iff.rfl ?_
  rw [pure_eq_ok, eq_comm]

end Setting

/-! ## Grouping -/

/-- The schemas of a plan are its names grouped by value. -/
structure PlanState.NamesGrouped (p : PlanState) : Prop where
  /-- Every schema stands at its final name. -/
  finalName : ∀ name schema, p.schemas.get? name = some schema → schema.finalName = name
  /-- A final name is made of letters and digits, at least one. -/
  alphanumeric : ∀ name ∈ p.schemas.keys, name ≠ "" ∧ ∀ c ∈ name.toList, c.isAlphanum = true
  /-- An identity has a name exactly when it is one of the identities of the schema there. -/
  identities : ∀ i name, p.schemaNames.get? i = some name ↔
    ∃ schema, p.schemas.get? name = some schema ∧ i ∈ schema.identities
  /-- Every schema has identities, each once. -/
  nodup : ∀ name schema, p.schemas.get? name = some schema →
    schema.identities ≠ [] ∧ schema.identities.Nodup
  /-- No identity is one of two schemas. -/
  disjoint : ∀ name schema name' schema' i, p.schemas.get? name = some schema →
    p.schemas.get? name' = some schema' → i ∈ schema.identities → i ∈ schema'.identities →
      name = name'
  /-- The schemas are in the order in which their names were first given. -/
  keys : p.schemas.keys = p.schemaNames.values.eraseDups
  /-- The identities of a schema are in the order in which they were named. -/
  order : ∀ name schema, p.schemas.get? name = some schema →
    schema.identities = (p.schemaNames.entries.filter fun e => e.2 = name).map Prod.fst

namespace Setting

variable {s : Setting} {f : Found} {log : List Registration}

theorem Recorded.get?_names (h : s.Recorded log f) {i name : String} :
    f.names.get? i = some name ↔ ∃ r ∈ log, r.identity = i ∧ r.finalName = name := by
  rw [OrderedMap.get?_eq_some_iff, h.names, List.mem_map]
  simp only [Prod.mk.injEq]

theorem Recorded.identities_eq (h : s.Recorded log f) {name : String} {schema : Schema}
    (hs : f.schemas.get? name = some schema) :
    schema.identities = (log.filter fun r => r.finalName = name).map Registration.identity := by
  rw [h.schemas] at hs
  obtain ⟨-, -, -, -, -, -, -, hi⟩ := get?_grouped_eq_some hs
  exact hi

theorem Recorded.mem_identities_iff (h : s.Recorded log f) {name i : String} {schema : Schema}
    (hs : f.schemas.get? name = some schema) :
    i ∈ schema.identities ↔ f.names.get? i = some name := by
  rw [h.identities_eq hs, h.get?_names]
  simp only [List.mem_map, List.mem_filter, decide_eq_true_eq]
  constructor
  · rintro ⟨r, ⟨hr, hname⟩, hi⟩
    exact ⟨r, hr, hi, hname⟩
  · rintro ⟨r, hr, hi, hname⟩
    exact ⟨r, ⟨hr, hname⟩, hi⟩

theorem Recorded.namesGrouped (h : s.Recorded log f) :
    { s.start with schemas := f.schemas, schemaNames := f.names : PlanState }.NamesGrouped where
  finalName name schema hs := by
    rw [show _ = f.schemas from rfl, h.schemas] at hs
    obtain ⟨-, -, -, -, -, hname, -, -⟩ := get?_grouped_eq_some hs
    exact hname
  alphanumeric name hname := by
    obtain ⟨schema, hs⟩ := OrderedMap.mem_keys_iff.1 hname
    rw [show _ = f.schemas from rfl, h.schemas] at hs
    obtain ⟨r, -, -, hr, rfl, -⟩ := get?_grouped_eq_some hs
    obtain ⟨p, q, declared, -, -, hq, -⟩ := h.origin r hr
    refine ⟨hq.named, fun c hc => ?_⟩
    rw [hq.finalName] at hc
    exact Naming.isAlphanum_of_mem_typeName hc
  identities i name := by
    constructor
    · intro hi
      cases hs : f.schemas.get? name with
      | none =>
        obtain ⟨r, hr, -, hname⟩ := h.get?_names.1 hi
        rw [h.schemas] at hs
        exact absurd hname (get?_grouped_eq_none hs r hr)
      | some schema => exact ⟨schema, rfl, (h.mem_identities_iff hs).2 hi⟩
    · rintro ⟨schema, hs, hi⟩
      exact (h.mem_identities_iff hs).1 hi
  nodup name schema hs := by
    have hsub : schema.identities.Sublist (log.map Registration.identity) := by
      rw [h.identities_eq hs]
      exact List.filter_sublist.map _
    refine ⟨?_, h.nodup.sublist hsub⟩
    rw [show _ = f.schemas from rfl, h.schemas] at hs
    obtain ⟨r, l, hl, -, -, -, -, hi⟩ := get?_grouped_eq_some hs
    rw [hi, hl]
    exact List.cons_ne_nil _ _
  disjoint name schema name' schema' i hs hs' hi hi' := by
    have hn := (h.mem_identities_iff hs).1 hi
    have hn' := (h.mem_identities_iff hs').1 hi'
    exact Option.some.inj (hn.symm.trans hn')
  keys := by
    show f.schemas.keys = (f.names.entries.map Prod.snd).eraseDups
    rw [h.schemas, grouped, OrderedMap.keys_foldl_gather, h.names, List.map_map]
    rfl
  order name schema hs := by
    show _ = (f.names.entries.filter _).map Prod.fst
    rw [h.identities_eq hs, h.names, List.filter_map, List.map_map]
    rfl

/-- The node of a schema is the node at its first identity, as a field holds it. -/
theorem Recorded.node_eq (h : s.Recorded log f) {name : String} {schema : Schema}
    (hs : f.schemas.get? name = some schema) :
    ∃ p q declared, s.Meets p ∧ s.StandsFor p q declared ∧
      schema.identities.head? = some q.pointer ∧ Naming.typeName (declared.getD "") = name ∧
      mappingField "schema" q.node = .ok schema.node := by
  have hi := h.identities_eq hs
  rw [h.schemas] at hs
  obtain ⟨r, l, hl, hr, hname, -, hnode, -⟩ := get?_grouped_eq_some hs
  obtain ⟨p, q, declared, hp, hq, hd, -⟩ := h.origin r hr
  refine ⟨p, q, declared, hp, hq, ?_, hd.finalName.symm.trans hname, ?_⟩
  · rw [hi, hl, List.map_cons, List.head?_cons, hd.identity]
  · rw [hnode]
    exact hd.node

end Setting

/-- A node with text keys is kept as it is. -/
theorem eq_of_mappingField {name : String} {v w : Value} (h : mappingField name v = .ok w)
    (hkeys : ∀ entries, v = .map entries → ∀ e ∈ entries, e.1.isStr = true) : w = v := by
  cases v with
  | map entries =>
    rw [mappingField_eq_ok (hkeys entries rfl)] at h
    exact (Except.ok.inj h).symm
  | _ => exact (Except.ok.inj h).symm

/-- After a discovery the schemas are the names grouped by value.  The node of a schema is the node
at its first identity, but keys that are octets are kept as the texts they encode. -/
theorem namesGrouped_of_discoverSchemas {s : Setting} {p : PlanState}
    (h : s.start.discoverSchemas = .ok p) :
    p.NamesGrouped ∧ ∀ name schema, p.schemas.get? name = some schema →
      ∃ m q declared, s.Meets m ∧ s.StandsFor m q declared ∧
        schema.identities.head? = some q.pointer ∧ Naming.typeName (declared.getD "") = name ∧
        mappingField "schema" q.node = .ok schema.node ∧
        ((∀ entries, q.node = .map entries → ∀ e ∈ entries, e.1.isStr = true) →
          schema.node = q.node) := by
  obtain ⟨f, hf, rfl⟩ := Setting.discoverSchemas_start_eq_ok.1 h
  obtain ⟨log, hlog⟩ := Setting.recorded_of_discover hf
  refine ⟨hlog.namesGrouped, fun name schema hs => ?_⟩
  obtain ⟨m, q, declared, hm, hq, hfirst, hname, hnode⟩ := hlog.node_eq hs
  exact ⟨m, q, declared, hm, hq, hfirst, hname, hnode, eq_of_mappingField hnode⟩

/-- Pets and their twins share a name, so they are one schema. -/
theorem namesGrouped_pets : ∃ (s : Setting) (p : PlanState) (schema : Schema),
    s.start.discoverSchemas = .ok p ∧ p.NamesGrouped ∧ p.schemas.get? "Pet" = some schema ∧
    schema.identities = ["#/components/schemas/pet", "#/components/schemas/pet/properties/twin"] ∧
    ∃ q : Position, some "#/components/schemas/pet" = some q.pointer ∧
      mappingField "schema" q.node = .ok schema.node := by
  obtain ⟨api, f, hapi, hf, htest⟩ := Setting.exists_discover petDocument "3.0.3"
    defaultSetting 8
    (fun _ f => (f.schemas.get? "Pet").any fun schema => schema.identities ==
      ["#/components/schemas/pet", "#/components/schemas/pet/properties/twin"])
    (fun _ => rfl) (by decide +kernel)
  obtain ⟨schema, hschema, hidentities⟩ := (Option.any_eq_true _ _).1 htest
  have hidentities := eq_of_beq hidentities
  have hp := Setting.discoverSchemas_start_eq_ok.2 ⟨f, hf, rfl⟩
  obtain ⟨hgrouped, hnodes⟩ := namesGrouped_of_discoverSchemas hp
  obtain ⟨m, q, declared, -, -, hfirst, -, hnode, -⟩ := hnodes "Pet" schema hschema
  rw [hidentities] at hfirst
  exact ⟨defaultSetting api, _, schema, hp, hgrouped, hschema, hidentities, q, hfirst, hnode⟩

/-- A document of pets with a key that is an octet. -/
def octetDocument : Value :=
  answering "pet" [("pet", .map [(.str "type", .str "object"), (.bytes [97], .int 1)])]

/-- The node of a schema differs from the node at its first identity if that has a key of octets. -/
theorem node_ne_of_octets : ∃ (s : Setting) (p : PlanState) (schema : Schema) (node : Value),
    readApi octetDocument "3.0.3" = .ok s.api ∧ s.start.discoverSchemas = .ok p ∧
    p.schemas.get? "Pet" = some schema ∧
    schema.identities = ["#/components/schemas/pet"] ∧
    Pointer.resolve s.api.document "#/components/schemas/pet" = .ok node ∧
    schema.node ≠ node := by
  obtain ⟨api, f, hapi, hf, htest⟩ := Setting.exists_discover octetDocument "3.0.3"
    defaultSetting 8
    (fun _ f => (f.schemas.get? "Pet").any fun schema =>
      schema.identities == ["#/components/schemas/pet"] && schema.node.has "a")
    (fun _ => rfl) (by decide +kernel)
  have hresolve : ((readApi octetDocument "3.0.3").toOption.any fun api =>
      (Pointer.resolve api.document "#/components/schemas/pet").toOption.any fun node =>
        !node.has "a") = true := by decide +kernel
  obtain ⟨api', hapi', hresolve⟩ := toOption_any_eq_true.1 hresolve
  obtain ⟨node, hnode, hlacks⟩ := toOption_any_eq_true.1 hresolve
  obtain rfl : api = api' := Except.ok.inj (hapi.symm.trans hapi')
  obtain ⟨schema, hschema, hfound⟩ := (Option.any_eq_true _ _).1 htest
  obtain ⟨hidentities, hhas⟩ := Bool.and_eq_true_iff.1 hfound
  have hp := Setting.discoverSchemas_start_eq_ok.2 ⟨f, hf, rfl⟩
  refine ⟨defaultSetting api, _, schema, node, hapi, hp, hschema, eq_of_beq hidentities, hnode, ?_⟩
  rintro rfl
  rw [hhas] at hlacks
  cases hlacks

end ClientPlan
