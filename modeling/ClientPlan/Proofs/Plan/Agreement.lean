import ClientPlan.Proofs.Discovery.Bounded
import ClientPlan.Proofs.Discovery.Resolution
import ClientPlan.Proofs.Schema.Flattening
import ClientPlan.Proofs.Schema.Places

/-!
# Discovery and encoding agree on positions

A discovery names an inline schema by the pointer that it makes on the way, and the structural
encoder looks the name up under the pointer that it makes itself.  The two agree wherever the pointer
has not been lost at a schema with several types; behind one, the schema is looked up elsewhere and
encoded as if it had no name (`encodeFrom_of_reaches`, `encodeFrom_unnamed_item`).
-/

set_option autoImplicit false

namespace ClientPlan

/-! ## Where the encoder starts -/

/-- The positions that are recorded for the encoder: the schemas of request bodies and responses,
and the declared properties of collected schemas. -/
inductive PlanState.Records (p : PlanState) : Position → Prop where
  /-- A schema of a request body or a response. -/
  | media {e : Endpoint} {q : Position} (he : e ∈ p.api.endpoints) (hq : e.HasSchema q) :
      Records p q
  /-- A declared property of a collected schema. -/
  | field {name : String} {schema : Schema} {declarations : List Declaration} {d : Declaration}
      (hschema : p.schemas.get? name = some schema)
      (hl : Declaration.ofSchema p.api.document schema.position = .ok declarations)
      (hd : d ∈ declarations) : Records p d.position

/-- After a discovery in a document with text keys and indices, the recorded positions are located. -/
theorem PlanState.Records.located {s : Setting} {p : PlanState} {start : Position}
    (h : p.Records start) (hd : s.api.document.hasTextKeys = true)
    (hindices : s.api.document.hasIndices = true)
    (hl : ∀ e ∈ s.api.endpoints, e.Located s.api.document) (hp : s.start.discoverSchemas = .ok p) :
    start.Located s.api.document := by
  obtain ⟨f, hf, rfl⟩ := Setting.discoverSchemas_start_eq_ok.1 hp
  cases h with
  | media he hq =>
    intro hmap
    obtain ⟨path, key, hat⟩ := (hl _ he).at_content hq hmap
    exact ⟨_, hat⟩
  | field hschema hdeclared hmem =>
    obtain ⟨log, hlog⟩ := Setting.recorded_of_discover hf
    obtain ⟨path, -, hat⟩ := hlog.located_schema hd hindices hl hschema
    exact Declaration.located_of_ofSchema hd hindices hat.isLocated hdeclared _ hmem

/-! ## Agreement -/

/-- Where the structural encoder comes to from a recorded position, in a document with text keys and
indices, the node stands in the document at a pointer that resolves to it.  Unless the pointer has
been lost, the encoder is given that pointer, and an inline schema with a name there is encoded by
that name.  If it has been lost, it was at a schema with several types, and the encoder is given the
pointer that the node would have if an alternative of that schema were the document. -/
theorem encodeFrom_of_reaches {s : Setting} {p : PlanState} {document : Value} {version : String}
    (hkeys : document.hasTextKeys = true) (hindices : document.hasIndices = true)
    (hread : readApi document version = .ok s.api)
    (h : s.start.discoverSchemas = .ok p) {start : Position} (hstart : p.Records start)
    {seen : List String} {q m : Position} {lost : Bool}
    (hreach : Encoder.Reaches document p.schemaNames start seen q m lost)
    (hmap : m.node.isMap = true) :
    Pointer.resolve document m.pointer = .ok m.node ∧
    (lost = false → q = m ∧ ∀ name, m.node.get? referenceKey = none →
      p.schemaNames.get? m.pointer = some name →
        Encoder.encodeFrom document p.schemaNames seen q = .ok (.schema name)) ∧
    (lost = true → ∃ (base : Position) (steps : List Pointer.Segment),
      Encoder.HasAlternatives base.node ∧ Pointer.resolve document base.pointer = .ok base.node ∧
        m.pointer = Pointer.join base.pointer steps ∧ q.pointer = Encoder.pointerBelow steps) := by
  obtain ⟨hdocument, hlocated⟩ := located_of_readApi hkeys hread
  subst hdocument
  have hstands := hreach.stands hindices (hstart.located hkeys hindices hlocated h)
  obtain ⟨path, hat⟩ := hstands.located hmap
  refine ⟨hat.resolve, fun hkept => ?_, fun hlost => ?_⟩
  · obtain rfl : q = m := hstands.kept hkept
    refine ⟨rfl, fun name href hname => Encoder.encodeFrom_of_name hmap href ?_⟩
    rw [Encoder.nameAt?, if_neg (by simpa using hat.pointer_ne_empty)]
    exact hname
  · obtain ⟨base, basePath, steps, hbase, hbaseAt, hm, hq⟩ := hstands.below hlost
    exact ⟨base, steps, hbase, hbaseAt.resolve, hm, hq⟩

/-! ## A list of items -/

/-- An item, which is an inline schema with a title. -/
def itemSchema : Value := .ofFields [("type", .str "object"), ("title", .str "Item")]

/-- A schema with items whose type keyword has the value `type`. -/
def listSchema (type : Value) : Value := .ofFields [("type", type), ("items", itemSchema)]

/-- A document in which requests at `/lists` are answered by a schema with items. -/
def listDocument (type : Value) : Value :=
  .ofFields [
    ("paths", .ofFields [("/lists", .ofFields [("get", .ofFields [("responses", .ofFields [("200",
      .ofFields [("content", .ofFields [("application/json", .ofFields [("schema",
        listSchema type)])])])])])])])]

/-- The pointer to the schema with items. -/
def listPointer : String :=
  "#/paths/~1lists/get/responses/200/content/application~1json/schema"

/-- Where the schema with items stands. -/
def listPosition (type : Value) : Position := ⟨listSchema type, listPointer⟩

/-- Where the items stand. -/
def itemPosition : Position := ⟨itemSchema, Pointer.field listPointer "items"⟩

theorem segments_listPointer : Pointer.segments? listPointer = some
    ["paths", "/lists", "get", "responses", "200", "content", "application/json", "schema"] := by
  decide +kernel

theorem at_listPosition (type : Value) : (listPosition type).At (listDocument type)
    ["paths", "/lists", "get", "responses", "200", "content", "application/json", "schema"] :=
  ⟨segments_listPointer, rfl⟩

/-- Whether the items have been named, and nothing else at which they are looked up. -/
def namesItems (api : Api) (f : Found) : Bool :=
  f.names.get? itemPosition.pointer == some "Item" && f.names.get? listPointer == none &&
    f.names.get? "#/items" == none &&
    api.endpoints.any fun e => e.schemaPositions.any fun p =>
      p.pointer == listPointer && p.node.isMap

/-- A discovery that names the items records where the list stands. -/
theorem exists_plan_of_namesItems {type : Value} (hkeys : (listDocument type).hasTextKeys = true)
    (h : ((readApi (listDocument type) "3.1.0").toOption.any fun api =>
      ((defaultSetting api).discoverAllWithin 8 api.endpoints
        ⟨[], OrderedMap.empty, OrderedMap.empty⟩).any (namesItems api)) = true) :
    ∃ (s : Setting) (p : PlanState), readApi (listDocument type) "3.1.0" = .ok s.api ∧
      s.start.discoverSchemas = .ok p ∧ p.Records (listPosition type) ∧
      p.schemaNames.get? itemPosition.pointer = some "Item" ∧
      p.schemaNames.get? listPointer = none ∧ p.schemaNames.get? "#/items" = none := by
  obtain ⟨api, f, hapi, hf, htest⟩ := Setting.exists_discover (listDocument type) "3.1.0"
    defaultSetting 8 namesItems (fun _ => rfl) h
  simp only [namesItems, Bool.and_eq_true, beq_iff_eq, List.any_eq_true] at htest
  obtain ⟨⟨⟨hitem, hlist⟩, hroot⟩, e, he, q, hq, hpointer, hmap⟩ := htest
  obtain ⟨-, hlocated⟩ := located_of_readApi hkeys hapi
  have hq := Endpoint.mem_schemaPositions_iff.1 hq
  obtain ⟨path, key, hat⟩ := (hlocated e he).at_content hq hmap
  cases hat.eq_of_pointer_eq (at_listPosition type) hpointer
  exact ⟨defaultSetting api, _, hapi, Setting.discoverSchemas_start_eq_ok.2 ⟨f, hf, rfl⟩,
    .media he hq, hitem, hlist, hroot⟩

/-- In a list with one type the items are encoded by their name. -/
theorem encodeFrom_named_item : (listDocument (.str "array")).hasTextKeys = true ∧
    (listDocument (.str "array")).hasIndices = true ∧
    ∃ (s : Setting) (p : PlanState),
      readApi (listDocument (.str "array")) "3.1.0" = .ok s.api ∧
      s.start.discoverSchemas = .ok p ∧ p.Records (listPosition (.str "array")) ∧
      Encoder.Reaches (listDocument (.str "array")) p.schemaNames (listPosition (.str "array")) []
        itemPosition itemPosition false ∧
      itemPosition.node.isMap = true ∧ itemPosition.node.get? referenceKey = none ∧
      p.schemaNames.get? itemPosition.pointer = some "Item" ∧
      Encoder.encodeFrom (listDocument (.str "array")) p.schemaNames [] itemPosition =
        .ok (.schema "Item") := by
  have hkeys : (listDocument (.str "array")).hasTextKeys = true := by decide +kernel
  have hindices : (listDocument (.str "array")).hasIndices = true := by decide +kernel
  obtain ⟨s, p, hread, hp, hstart, hitem, hlist, -⟩ :=
    exists_plan_of_namesItems hkeys (by decide +kernel)
  have hreach : Encoder.Reaches (listDocument (.str "array")) p.schemaNames
      (listPosition (.str "array")) [] itemPosition itemPosition false :=
    Encoder.Reaches.start.part (i := 0) rfl (Encoder.nameAt?_eq_none hlist)
      (by decide +kernel) rfl rfl
  refine ⟨hkeys, hindices, s, p, hread, hp, hstart, hreach, rfl, rfl, hitem, ?_⟩
  obtain ⟨-, hagrees, -⟩ := encodeFrom_of_reaches hkeys hindices hread hp hstart hreach rfl
  exact (hagrees rfl).2 "Item" rfl hitem

/-- The types of a list that may also be a text. -/
def listOrText : Value := .list [.str "array", .str "string"]

/-- In a list that may also be a text the items are encoded as if they had no name, since they are
looked up at another pointer. -/
theorem encodeFrom_unnamed_item : (listDocument listOrText).hasTextKeys = true ∧
    ∃ (s : Setting) (p : PlanState),
      readApi (listDocument listOrText) "3.1.0" = .ok s.api ∧
      s.start.discoverSchemas = .ok p ∧ p.Records (listPosition listOrText) ∧
      Encoder.Reaches (listDocument listOrText) p.schemaNames (listPosition listOrText) []
        ⟨itemSchema, "#/items"⟩ itemPosition true ∧
      itemPosition.node.get? referenceKey = none ∧
      p.schemaNames.get? itemPosition.pointer = some "Item" ∧
      Encoder.encodeFrom (listDocument listOrText) p.schemaNames [] ⟨itemSchema, "#/items"⟩ =
        .ok (.map .any) := by
  have hkeys : (listDocument listOrText).hasTextKeys = true := by decide +kernel
  obtain ⟨s, p, hread, hp, hstart, hitem, hlist, hroot⟩ :=
    exists_plan_of_namesItems hkeys (by decide +kernel)
  have halternative : Encoder.Reaches (listDocument listOrText) p.schemaNames
      (listPosition listOrText) [] ⟨Encoder.withType (listSchema listOrText) (.str "array"), ""⟩
      (listPosition listOrText) true :=
    Encoder.Reaches.start.alternative rfl (Encoder.nameAt?_eq_none hlist) (by decide +kernel)
      List.mem_cons_self
  have hreach : Encoder.Reaches (listDocument listOrText) p.schemaNames (listPosition listOrText) []
      ⟨itemSchema, "#/items"⟩ itemPosition true :=
    halternative.part (i := 0) rfl rfl (by decide +kernel) rfl rfl
  refine ⟨hkeys, s, p, hread, hp, hstart, hreach, rfl, hitem, ?_⟩
  -- Nothing has a name at the pointer that the items are given, so their shape is encoded.
  rw [← Encoder.value_atSchema rfl rfl (Encoder.nameAt?_eq_none hroot)]
  rfl

end ClientPlan
