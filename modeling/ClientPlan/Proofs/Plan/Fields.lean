import ClientPlan.Proofs.Document.Agreement
import ClientPlan.Proofs.Plan.Bounded
import ClientPlan.Proofs.Schema.Composition
import Mathlib.Data.Option.Basic

/-!
# Fields of composed schemas

The fields of a collected schema come from the nodes that are flattened into it: each name has the
position of its first declaration and is read, with type and all, from its last one
(`fields_of_describeSchemas`).  Names that differ as keys may be read as the same text, but not if
all keys are texts (`nodup_names_of_hasTextKeys`).
-/

set_option autoImplicit false

namespace ClientPlan

/-! ## Fields of declarations -/

theorem Value.isTextual_of_spelled? {k : Value} {s : String} (h : k.spelled? = some s) :
    k.isTextual = true := by
  cases k with
  | str t => rfl
  | bytes octets => rfl
  | _ => cases h

/-- A field is what a declared property becomes. -/
structure Setting.Becomes (s : Setting) (names : SchemaNames) (d : Declaration)
    (field : SchemaField) : Prop where
  /-- It has the text of the name. -/
  name : d.name.spelled? = some field.name
  /-- It has the type of the declared schema. -/
  type : s.typeOf names d.position = .ok field.type
  /-- It is required if the declaring node requires it. -/
  required : field.required = d.required

namespace Setting

variable {s : Setting} {names : SchemaNames} {d : Declaration} {field : SchemaField}

theorem becomes_of_fieldOf (h : s.fieldOf names d = .ok field) : s.Becomes names d field := by
  obtain ⟨type, htype, h⟩ := bind_eq_ok.1 h
  obtain ⟨name, hname, h⟩ := bind_eq_ok.1 h
  cases h
  exact ⟨spelled?_of_checkText (Checked.required_eq_ok.1 hname), htype, rfl⟩

/-- Names that fields have are texts or octets. -/
theorem allTextual_of_forall₂ {l : List Declaration} {fields : List SchemaField}
    (h : List.Forall₂ (s.Becomes names) l fields) : Declaration.AllTextual l := by
  intro d hd
  obtain ⟨i, hi, rfl⟩ := List.getElem_of_mem hd
  exact Value.isTextual_of_spelled? (h.get hi (h.length_eq ▸ hi)).name

/-- The fields of a schema are what the merge of what its nodes declare becomes. -/
theorem exists_of_fieldsOf {schema : Schema} {fields : List SchemaField}
    (h : s.fieldsOf names schema = .ok fields) :
    ∃ nodes, Declaration.Flattens s.api.document [] schema.position nodes ∧
      Declaration.AllTextual (nodes.flatMap Declaration.declaredAt) ∧
      List.Forall₂ (s.Becomes names) (Declaration.merge (nodes.flatMap Declaration.declaredAt))
        fields := by
  obtain ⟨l, hl, hfields⟩ := bind_eq_ok.1 h
  have hbecomes : List.Forall₂ (s.Becomes names) l fields :=
    (mapM_eq_ok_iff.1 hfields).imp fun d field => becomes_of_fieldOf
  obtain ⟨nodes, hnodes, htextual, rfl⟩ :=
    Declaration.merge_of_ofSchema hl (allTextual_of_forall₂ hbecomes)
  exact ⟨nodes, hnodes, htextual, hbecomes⟩

end Setting

/-- The fields of a schema that is described are what the merge of what its nodes declare
becomes. -/
theorem PlanState.exists_described {p p' : PlanState} (h : p.describeSchemas = .ok p')
    {name : String} {schema : Schema} (hschema : p.schemas.get? name = some schema) :
    ∃ described nodes, p'.schemas.get? name = some described ∧
      Declaration.Flattens p.api.document [] schema.position nodes ∧
      Declaration.AllTextual (nodes.flatMap Declaration.declaredAt) ∧
      List.Forall₂ (p.Becomes p.schemaNames)
        (Declaration.merge (nodes.flatMap Declaration.declaredAt)) described.fields := by
  obtain ⟨schemas, hschemas, he⟩ := bind_eq_ok.1 h
  cases he
  obtain ⟨hkeys, hget⟩ := OrderedMap.traverse_eq_ok hschemas
  have hname : name ∈ schemas.keys := hkeys ▸ OrderedMap.mem_keys_iff.2 ⟨schema, hschema⟩
  obtain ⟨described, hdescribed⟩ := OrderedMap.mem_keys_iff.1 hname
  obtain ⟨found, hfound, hdescription⟩ := hget name described hdescribed
  cases hschema.symm.trans hfound
  obtain ⟨fields, hfields, he⟩ := bind_eq_ok.1 hdescription
  cases he
  obtain ⟨nodes, hnodes, hrest⟩ := Setting.exists_of_fieldsOf hfields
  exact ⟨_, nodes, hdescribed, hnodes, hrest⟩

/-! ## Names of fields -/

/-- No two names that differ as keys are read as the same text. -/
def Declaration.ReadApart (l : List Declaration) : Prop :=
  ∀ d ∈ l, ∀ e ∈ l, d.name.spelled? = e.name.spelled? → d.name = e.name

/-- Names that are texts are read as themselves. -/
theorem Declaration.readApart_of_isStr {l : List Declaration}
    (h : ∀ d ∈ l, d.name.isStr = true) : ReadApart l := by
  intro d hd e he heq
  have hdName := h d hd
  have heName := h e he
  cases hdn : d.name with
  | str s =>
    cases hen : e.name with
    | str t =>
      rw [hdn, hen] at heq
      cases heq
      rfl
    | _ =>
      rw [hen] at heName
      cases heName
  | _ =>
    rw [hdn] at hdName
    cases hdName

/-- The names of fields are distinct exactly if the keys that they come from are read apart. -/
theorem Setting.nodup_names_iff {s : Setting} {names : SchemaNames} {l merged : List Declaration}
    {fields : List SchemaField} (hmerges : Declaration.Merges l merged)
    (h : List.Forall₂ (s.Becomes names) merged fields) :
    (fields.map SchemaField.name).Nodup ↔ Declaration.ReadApart l := by
  have hspelled : merged.map (fun d => d.name.spelled?) =
      (fields.map SchemaField.name).map some := by
    clear hmerges
    induction h with
    | nil => rfl
    | cons hd _ ih => rw [List.map_cons, List.map_cons, List.map_cons, hd.name, ih]
  rw [← List.nodup_map_iff (Option.some_injective _), ← hspelled,
    List.nodup_map_iff_inj_on (List.Nodup.of_map _ hmerges.distinct)]
  constructor
  · intro hinj d hd e he heq
    obtain ⟨d', hd', hdName⟩ := hmerges.complete d hd
    obtain ⟨e', he', heName⟩ := hmerges.complete e he
    rw [← hdName, ← heName] at heq ⊢
    exact congrArg Declaration.name (hinj d' hd' e' he' heq)
  · intro hapart d hd e he heq
    have hname := hapart d (hmerges.mem hd) e (hmerges.mem he) heq
    exact List.inj_on_of_nodup_map hmerges.distinct hd he hname

/-- The fields of a schema that is described come from the declarations of the nodes that are
flattened into it, merged so that every name keeps its first position and gets its last declaration:
each has the text of a name and the type of its declaration.  Their names are distinct exactly if no
two names that differ as keys are read as the same text. -/
theorem fields_of_describeSchemas {p p' : PlanState} (h : p.describeSchemas = .ok p')
    {name : String} {schema : Schema} (hschema : p.schemas.get? name = some schema) :
    ∃ described nodes merged, p'.schemas.get? name = some described ∧
      Declaration.Flattens p.api.document [] schema.position nodes ∧
      Declaration.Merges (nodes.flatMap Declaration.declaredAt) merged ∧
      List.Forall₂ (p.Becomes p.schemaNames) merged described.fields ∧
      ((described.fields.map SchemaField.name).Nodup ↔
        Declaration.ReadApart (nodes.flatMap Declaration.declaredAt)) := by
  obtain ⟨described, nodes, hdescribed, hnodes, htextual, hfields⟩ := p.exists_described h hschema
  have hmerges := Declaration.merges_merge htextual
  exact ⟨described, nodes, _, hdescribed, hnodes, hmerges, hfields,
    Setting.nodup_names_iff hmerges hfields⟩

/-- What a document and one of its nodes have in their keys, everything that references and parts
lead to has. -/
theorem Position.inherited_hasTextKeys {document : Value} (hd : document.hasTextKeys = true) :
    Position.Inherited document fun p => p.node.hasTextKeys = true where
  reference _ _ htarget := by
    obtain ⟨path, hat⟩ := Position.At.of_resolve htarget
    exact Pointer.everyMap_locate? hd hat.located
  part hp _ hm := hm.everyMap hp

theorem Declaration.isStr_of_mem_declaredAt {p : Position} (hp : p.node.hasTextKeys = true) :
    ∀ d ∈ declaredAt p, d.name.isStr = true := by
  intro d hd
  rw [declaredAt, own] at hd
  split at hd
  · next entries hentries =>
    obtain ⟨⟨name, v⟩, he, rfl⟩ := List.mem_map.1 hd
    have hkeys := textKeyed_of_hasTextKeys (Value.everyMap_get? hp hentries)
    obtain ⟨key, rfl, -⟩ := lookupText_of_mem hkeys he
    rfl
  · cases hd

/-- In a document with text keys the fields of a schema have distinct names. -/
theorem nodup_names_of_hasTextKeys {p p' : PlanState} (h : p.describeSchemas = .ok p')
    (hkeys : p.api.document.hasTextKeys = true) {name : String} {schema described : Schema}
    (hschema : p.schemas.get? name = some schema) (hnode : schema.node.hasTextKeys = true)
    (hdescribed : p'.schemas.get? name = some described) :
    (described.fields.map SchemaField.name).Nodup := by
  obtain ⟨described', nodes, hdescribed', hnodes, htextual, hfields⟩ := p.exists_described h hschema
  cases hdescribed.symm.trans hdescribed'
  rw [Setting.nodup_names_iff (Declaration.merges_merge htextual) hfields]
  refine Declaration.readApart_of_isStr fun d hd => ?_
  obtain ⟨q, hq, hd⟩ := List.mem_flatMap.1 hd
  have hq := hnodes.inherits (Position.inherited_hasTextKeys hkeys) hnode q hq
  exact Declaration.isStr_of_mem_declaredAt hq d hd

/-! ## A description of pets with a base -/

/-- The schemas of a document that can be planned are discovered and described. -/
theorem exists_describeSchemas (document : Value) (n : Nat) (test : SchemaMap → Bool)
    (h : ((readApi document "3.0.3").toOption.any fun api =>
      ((structuralSetting api).runWithin n).any fun p => test p.schemas) = true) :
    ∃ p p' : PlanState, readApi document "3.0.3" = .ok p.api ∧
      (structuralSetting p.api).start.discoverSchemas = .ok p ∧ p.describeSchemas = .ok p' ∧
      test p'.schemas = true := by
  obtain ⟨api, q, hapi, hrun, htest⟩ := Setting.exists_run document "3.0.3" structuralSetting n
    (fun p => test p.schemas) (fun _ => rfl) h
  obtain ⟨t, rfl⟩ := Setting.run_eq_ok_iff.1 hrun
  refine ⟨{ (structuralSetting api).start with
      schemas := t.found.schemas, schemaNames := t.found.names },
    { (structuralSetting api).start with schemas := t.schemas, schemaNames := t.found.names },
    hapi, ?_, ?_, htest⟩
  · exact Setting.discoverSchemas_start_eq_ok.2 ⟨t.found, t.discovered, rfl⟩
  · exact bind_eq_ok.2 ⟨t.schemas, t.described, rfl⟩

/-- A described schema is a collected one with its fields. -/
theorem PlanState.exists_fieldsOf {p p' : PlanState} (h : p.describeSchemas = .ok p')
    {name : String} {described : Schema} (hdescribed : p'.schemas.get? name = some described) :
    ∃ schema, p.schemas.get? name = some schema ∧ schema.identities = described.identities ∧
      p.fieldsOf p.schemaNames schema = .ok described.fields := by
  obtain ⟨schemas, hschemas, he⟩ := bind_eq_ok.1 h
  cases he
  obtain ⟨schema, hschema, hdescription⟩ := (OrderedMap.traverse_eq_ok hschemas).2 _ _ hdescribed
  obtain ⟨fields, hfields, he⟩ := bind_eq_ok.1 hdescription
  cases he
  exact ⟨schema, hschema, rfl, hfields⟩

/-- A schema is described if it is collected. -/
theorem PlanState.exists_collected {p p' : PlanState} (h : p.describeSchemas = .ok p')
    {name : String} {described : Schema} (hdescribed : p'.schemas.get? name = some described) :
    ∃ schema, p.schemas.get? name = some schema ∧ schema.identities = described.identities := by
  obtain ⟨schema, hschema, hidentities, -⟩ := p.exists_fieldsOf h hdescribed
  exact ⟨schema, hschema, hidentities⟩

/-- A property with a type. -/
def typedProperty (name type : String) : String × Value :=
  (name, .ofFields [("type", .str type)])

/-- A document of pets, which declare an id with another type than their base does. -/
def redeclaringDocument : Value :=
  answering "Pet" [
    ("Base", .ofFields [("properties", .ofFields [typedProperty "id" "string",
      typedProperty "name" "string"])]),
    ("Pet", .ofFields [("allOf", .list [refTo "Base"]),
      ("properties", .ofFields [typedProperty "age" "integer", typedProperty "id" "integer"])])]

/-- The id of a pet stays in front and gets the type that the pet declares. -/
theorem fields_of_redeclaring : ∃ (p p' : PlanState) (schema : Schema),
    readApi redeclaringDocument "3.0.3" = .ok p.api ∧ p.describeSchemas = .ok p' ∧
    p.schemas.get? "Pet" = some schema ∧
    ∃ described nodes merged, p'.schemas.get? "Pet" = some described ∧
      described.fields.map (fun f => (f.name, f.type.text)) = [("id", "integer"),
        ("name", "string"), ("age", "integer")] ∧
      Declaration.Flattens p.api.document [] schema.position nodes ∧
      Declaration.Merges (nodes.flatMap Declaration.declaredAt) merged ∧
      List.Forall₂ (p.Becomes p.schemaNames) merged described.fields := by
  obtain ⟨p, p', hapi, -, h, htest⟩ := exists_describeSchemas redeclaringDocument 8
    (fun schemas => (schemas.get? "Pet").any fun schema =>
      schema.fields.map (fun f => (f.name, f.type.text)) == [("id", "integer"),
        ("name", "string"), ("age", "integer")]) (by decide +kernel)
  obtain ⟨described, hdescribed, hfields⟩ := (Option.any_eq_true _ _).1 htest
  obtain ⟨schema, hschema, -⟩ := p.exists_collected h hdescribed
  obtain ⟨described', nodes, merged, hdescribed', hnodes, hmerges, hbecomes, -⟩ :=
    fields_of_describeSchemas h hschema
  cases hdescribed.symm.trans hdescribed'
  exact ⟨p, p', schema, hapi, h, hschema, described, nodes, merged, hdescribed, eq_of_beq hfields,
    hnodes, hmerges, hbecomes⟩

/-- A document of pets, which declare a name twice: by a text and by octets. -/
def octetPropertyDocument : Value :=
  answering "Pet" [("Pet", .ofFields [("properties", .map [
    (.str "a", .ofFields [("type", .str "string")]),
    (.bytes [97], .ofFields [("type", .str "integer")])])])]

/-- Two fields of a pet have the same name. -/
theorem names_not_nodup_octets : ∃ (p p' : PlanState) (described : Schema),
    readApi octetPropertyDocument "3.0.3" = .ok p.api ∧
    (structuralSetting p.api).start.discoverSchemas = .ok p ∧ p.describeSchemas = .ok p' ∧
    p'.schemas.get? "Pet" = some described ∧
    described.fields.map SchemaField.name = ["a", "a"] := by
  obtain ⟨p, p', hapi, hp, h, htest⟩ := exists_describeSchemas octetPropertyDocument 8
    (fun schemas => (schemas.get? "Pet").any fun schema =>
      schema.fields.map SchemaField.name == ["a", "a"]) (by decide +kernel)
  obtain ⟨described, hdescribed, hnames⟩ := (Option.any_eq_true _ _).1 htest
  exact ⟨p, p', described, hapi, hp, h, hdescribed, eq_of_beq hnames⟩

end ClientPlan
