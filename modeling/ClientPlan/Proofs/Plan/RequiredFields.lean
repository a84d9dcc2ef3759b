import ClientPlan.Proofs.Discovery.Resolution
import ClientPlan.Proofs.Plan.Fields

/-!
# Required fields of composed schemas

Whether a field is required is said by the last of the nodes that declare it, and by that node alone
(`required_of_describeSchemas`).  What another node flattened into the schema requires does not
count, not even if it is the schema itself and the last declaration is inherited
(`not_required_of_pet`).
-/

set_option autoImplicit false

namespace ClientPlan

/-! ## Required fields -/

/-- A node declares a property by itself. -/
def Position.Declares (p : Position) (key : Value) : Prop :=
  ∃ d ∈ Declaration.declaredAt p, d.name = key

/-- A node requires a name, which it need not declare. -/
def Position.Requires (p : Position) (key : Value) : Prop := key ∈ Declaration.requiredOf p.node

/-- The last of some nodes that declares a property by itself. -/
def LastDeclaring (nodes : List Position) (key : Value) (last : Position) : Prop :=
  ∃ before after, nodes = before ++ last :: after ∧ last.Declares key ∧
    ∀ q ∈ after, ¬ q.Declares key

theorem LastDeclaring.mem {nodes : List Position} {key : Value} {last : Position}
    (h : LastDeclaring nodes key last) : last ∈ nodes := by
  obtain ⟨before, after, rfl, -, -⟩ := h
  exact List.mem_append_right _ List.mem_cons_self

/-- The last declaration of a name stands at the last node that declares the name. -/
theorem exists_lastDeclaring {nodes : List Position} {before after : List Declaration}
    {d : Declaration} (h : nodes.flatMap Declaration.declaredAt = before ++ d :: after)
    (hafter : ∀ e ∈ after, e.name ≠ d.name) :
    ∃ last, LastDeclaring nodes d.name last ∧ d ∈ Declaration.declaredAt last := by
  have hlater : ∀ {q r}, (∃ last, LastDeclaring r d.name last ∧ d ∈ Declaration.declaredAt last) →
      ∃ last, LastDeclaring (q :: r) d.name last ∧ d ∈ Declaration.declaredAt last := by
    rintro q r ⟨last, ⟨front, back, rfl, hlast⟩, hd⟩
    exact ⟨last, ⟨q :: front, back, rfl, hlast⟩, hd⟩
  induction nodes generalizing before with
  | nil =>
    rw [List.flatMap_nil] at h
    cases List.append_ne_nil_of_right_ne_nil before (List.cons_ne_nil d after) h.symm
  | cons q r ih =>
    rw [List.flatMap_cons] at h
    rcases List.append_eq_append_iff.1 h with ⟨middle, -, hrest⟩ | ⟨middle, hq, hrest⟩
    · exact hlater (ih hrest)
    · cases middle with
      | nil =>
        rw [List.nil_append] at hrest
        exact hlater (ih (hrest.symm.trans (List.nil_append _).symm))
      | cons e middle =>
        -- The declaration is one of the first node, and all of what the others declare follows.
        obtain ⟨rfl, rfl⟩ := List.cons.inj hrest
        have hd : d ∈ Declaration.declaredAt q := by
          rw [hq]
          exact List.mem_append_right _ List.mem_cons_self
        refine ⟨q, ⟨[], r, rfl, ⟨d, hd, rfl⟩, ?_⟩, hd⟩
        rintro q' hq' ⟨e, he, hname⟩
        exact hafter e (List.mem_append_right _ (List.mem_flatMap.2 ⟨q', hq', he⟩)) hname

/-- A declaration is required if its node requires the name. -/
theorem Declaration.required_iff {d : Declaration} {p : Position} (hd : d ∈ declaredAt p)
    (hname : d.name.isTextual = true) : d.required = true ↔ p.Requires d.name := by
  rw [declaredAt, own] at hd
  split at hd
  · obtain ⟨⟨name, v⟩, -, rfl⟩ := List.mem_map.1 hd
    rw [List.any_eq_true]
    constructor
    · rintro ⟨k, hk, hagrees⟩
      rwa [(Value.agrees_iff_eq hname).1 hagrees] at hk
    · exact fun hk => ⟨name, hk, (Value.agrees_iff_eq hname).2 rfl⟩
  · cases hd

/-- A field of a schema that is described is required exactly if the last of the nodes flattened into
the schema that declares it requires it.  That is the same as that some node requires it exactly if
none does but that one does too. -/
theorem required_of_describeSchemas {p p' : PlanState} (h : p.describeSchemas = .ok p')
    {name : String} {schema : Schema} (hschema : p.schemas.get? name = some schema) :
    ∃ described nodes, p'.schemas.get? name = some described ∧
      Declaration.Flattens p.api.document [] schema.position nodes ∧
      ∀ field ∈ described.fields, ∃ key last, key.spelled? = some field.name ∧
        LastDeclaring nodes key last ∧ (field.required = true ↔ last.Requires key) ∧
        ((field.required = true ↔ ∃ q ∈ nodes, q.Requires key) ↔
          ∀ q ∈ nodes, q.Requires key → last.Requires key) := by
  obtain ⟨described, nodes, hdescribed, hnodes, htextual, hfields⟩ := p.exists_described h hschema
  have hmerges := Declaration.merges_merge htextual
  refine ⟨described, nodes, hdescribed, hnodes, fun field hfield => ?_⟩
  obtain ⟨d, hd, hbecomes⟩ : ∃ d ∈ Declaration.merge (nodes.flatMap Declaration.declaredAt),
      p.Becomes p.schemaNames d field := by
    obtain ⟨i, hi, rfl⟩ := List.getElem_of_mem hfield
    exact ⟨_, List.getElem_mem (hfields.length_eq ▸ hi), hfields.get _ hi⟩
  obtain ⟨before, after, hsplit, hafter⟩ := hmerges.last d hd
  obtain ⟨last, hlast, hd⟩ := exists_lastDeclaring hsplit hafter
  have hrequired := Declaration.required_iff hd (Value.isTextual_of_spelled? hbecomes.name)
  rw [← hbecomes.required] at hrequired
  refine ⟨_, last, hbecomes.name, hlast, hrequired, ?_⟩
  rw [hrequired]
  constructor
  · exact fun hiff q hq hrequires => hiff.2 ⟨q, hq, hrequires⟩
  · exact fun hall => ⟨fun hrequires => ⟨last, hlast.mem, hrequires⟩,
      fun ⟨q, hq, hrequires⟩ => hall q hq hrequires⟩

/-! ## A description of pets with a base -/

/-- In a document with text keys and indices a collected schema stands where its first identity
leads. -/
theorem PlanState.position_eq {document : Value} {version : String} {p : PlanState}
    (hkeys : document.hasTextKeys = true) (hindices : document.hasIndices = true)
    (hread : readApi document version = .ok p.api)
    (hp : (structuralSetting p.api).start.discoverSchemas = .ok p) {name : String}
    {schema : Schema} (hschema : p.schemas.get? name = some schema) {q : Position}
    {path : List String} (hq : q.At document path)
    (hfirst : schema.identities.head? = some q.pointer) : schema.position = q := by
  obtain ⟨hdocument, hlocated⟩ := located_of_readApi hkeys hread
  subst hdocument
  obtain ⟨f, hf, hfound⟩ := Setting.discoverSchemas_start_eq_ok.1 hp
  obtain ⟨log, hlog⟩ := Setting.recorded_of_discover hf
  have hget : f.schemas.get? name = some schema := by
    rw [hfound] at hschema
    exact hschema
  obtain ⟨path', hhead, hat⟩ := hlog.located_schema hkeys hindices hlocated hget
  exact hat.eq_of_pointer_eq hq (Option.some.inj (hhead.symm.trans hfirst))

/-- The keyword that requires one property. -/
def requiring (name : String) : String × Value := ("required", .list [.str name])

/-- The schema of a base that declares an id. -/
def baseSchema (more : List (String × Value)) : Value :=
  .ofFields (("properties", .ofFields [typedProperty "id" "string"]) :: more)

/-- The schema of pets over that base. -/
def basedSchema (more : List (String × Value)) : Value :=
  .ofFields (("allOf", .list [refTo "Base"]) :: more)

/-- A document of pets over a base, with more keywords in each of the two. -/
def basedDocument (base pet : List (String × Value)) : Value :=
  answering "Pet" [("Base", baseSchema base), ("Pet", basedSchema pet)]

/-- The id of a pet is required if the base requires it. -/
theorem required_of_base : ∃ (p p' : PlanState) (schema : Schema),
    readApi (basedDocument [requiring "id"] []) "3.0.3" = .ok p.api ∧ p.describeSchemas = .ok p' ∧
    p.schemas.get? "Pet" = some schema ∧
    ∃ described nodes field, p'.schemas.get? "Pet" = some described ∧
      Declaration.Flattens p.api.document [] schema.position nodes ∧ field ∈ described.fields ∧
      field.name = "id" ∧ ∃ key last, key.spelled? = some "id" ∧ LastDeclaring nodes key last ∧
        last.Requires key := by
  obtain ⟨p, p', hapi, -, h, htest⟩ := exists_describeSchemas
    (basedDocument [requiring "id"] []) 8 (fun schemas => (schemas.get? "Pet").any fun schema =>
      schema.fields.any fun f => f.name == "id" && f.required) (by decide +kernel)
  obtain ⟨described, hdescribed, hfields⟩ := (Option.any_eq_true _ _).1 htest
  obtain ⟨field, hfield, hid⟩ := List.any_eq_true.1 hfields
  rw [Bool.and_eq_true, beq_iff_eq] at hid
  obtain ⟨hname, hrequired⟩ := hid
  obtain ⟨schema, hschema, -⟩ := p.exists_collected h hdescribed
  obtain ⟨described', nodes, hdescribed', hnodes, hall⟩ := required_of_describeSchemas h hschema
  cases hdescribed.symm.trans hdescribed'
  obtain ⟨key, last, hkey, hlast, hiff, -⟩ := hall field hfield
  exact ⟨p, p', schema, hapi, h, hschema, described, nodes, field, hdescribed, hnodes, hfield,
    hname, key, last, hname ▸ hkey, hlast, hiff.1 hrequired⟩

/-- Where the base stands. -/
def basePosition (base : List (String × Value)) : Position :=
  ⟨baseSchema base, "#/components/schemas/Base"⟩

/-- Where the schema of pets stands. -/
def basedPosition (pet : List (String × Value)) : Position :=
  ⟨basedSchema pet, "#/components/schemas/Pet"⟩

section

variable {base pet : List (String × Value)}

theorem segments_base : Pointer.segments? "#/components/schemas/Base" =
    some ["components", "schemas", "Base"] := by
  decide +kernel

theorem segments_based : Pointer.segments? "#/components/schemas/Pet" =
    some ["components", "schemas", "Pet"] := by
  decide +kernel

theorem at_basePosition :
    (basePosition base).At (basedDocument base pet) ["components", "schemas", "Base"] :=
  ⟨segments_base, rfl⟩

theorem at_basedPosition :
    (basedPosition pet).At (basedDocument base pet) ["components", "schemas", "Pet"] :=
  ⟨segments_based, rfl⟩

/-- The nodes flattened into a pet are the base and the pet itself, whatever they require. -/
theorem flattens_basedPosition {name : String} :
    Declaration.Flattens (basedDocument [] [requiring name]) [] (basedPosition [requiring name])
      [basePosition [], basedPosition [requiring name]] := by
  have hbase : Declaration.Flattens (basedDocument [] [requiring name])
      [(basePosition []).pointer] (basePosition []) ([].flatten ++ [basePosition []]) :=
    .node rfl rfl rfl rfl fun m nodes hm => (List.not_mem_nil hm).elim
  show Declaration.Flattens _ [] _ ([[basePosition []]].flatten ++ _)
  refine .node rfl rfl rfl rfl fun m nodes hm => ?_
  cases List.mem_singleton.1 hm
  exact .reference rfl List.not_mem_nil at_basePosition.resolve hbase

end

/-- The id of a pet is not required, although one of the nodes flattened into the pet requires
it. -/
theorem not_required_of_pet : ∃ (p p' : PlanState) (schema described : Schema) (field : SchemaField)
    (nodes : List Position),
    readApi (basedDocument [] [requiring "id"]) "3.0.3" = .ok p.api ∧
    (structuralSetting p.api).start.discoverSchemas = .ok p ∧ p.describeSchemas = .ok p' ∧
    p.schemas.get? "Pet" = some schema ∧ p'.schemas.get? "Pet" = some described ∧
    Declaration.Flattens p.api.document [] schema.position nodes ∧ field ∈ described.fields ∧
    field.name = "id" ∧ field.required = false ∧ ∃ q ∈ nodes, q.Requires (.str "id") := by
  obtain ⟨p, p', hapi, hp, h, htest⟩ := exists_describeSchemas
    (basedDocument [] [requiring "id"]) 8 (fun schemas => (schemas.get? "Pet").any fun schema =>
      schema.identities.head? == some "#/components/schemas/Pet" &&
        schema.fields.any fun f => f.name == "id" && !f.required) (by decide +kernel)
  obtain ⟨described, hdescribed, htest⟩ := (Option.any_eq_true _ _).1 htest
  rw [Bool.and_eq_true, beq_iff_eq] at htest
  obtain ⟨field, hfield, hid⟩ := List.any_eq_true.1 htest.2
  rw [Bool.and_eq_true, beq_iff_eq, Bool.not_eq_true'] at hid
  obtain ⟨schema, hschema, hidentities⟩ := p.exists_collected h hdescribed
  have hkeys : (basedDocument [] [requiring "id"]).hasTextKeys = true := by decide +kernel
  have hindices : (basedDocument [] [requiring "id"]).hasIndices = true := by decide +kernel
  have hposition := PlanState.position_eq hkeys hindices hapi hp hschema
    (q := basedPosition [requiring "id"]) at_basedPosition (hidentities ▸ htest.1)
  refine ⟨p, p', schema, described, field, [basePosition [], basedPosition [requiring "id"]], hapi,
    hp, h, hschema, hdescribed, ?_, hfield, hid.1, hid.2, ?_⟩
  · rw [hposition, (located_of_readApi hkeys hapi).1]
    exact flattens_basedPosition
  · exact ⟨_, List.mem_cons_of_mem _ List.mem_cons_self, List.mem_singleton_self _⟩

end ClientPlan
