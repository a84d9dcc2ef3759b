import ClientPlan.Proofs.Discovery.ComponentNodes
import ClientPlan.Proofs.Plan.Fields
import ClientPlan.Proofs.Schema.Aliases

/-!
# Aliases of components

A component may be nothing but a reference to another one, perhaps over several more.  It is
collected under its own name, and its fields are read along the chain.

Main statement: such an alias has exactly the fields of the component that the chain ends at, if that
component does not inherit from a reference on the chain (`fields_eq_of_leads`).
-/

set_option autoImplicit false

namespace ClientPlan

/-- In the document of a description no text is a key of a mapping twice, if that is so in the
document that it is read from. -/
theorem distinctTexts_of_readApi {document : Value} {version : String} {api : Api}
    (hread : readApi document version = .ok api) (hd : document.everyMap distinctTexts = true) :
    api.document.everyMap distinctTexts = true :=
  distinctTexts_of_mappingField (document_of_readApi hread) hd

/-- After a description an alias has the fields of the component that it stands for: `refs` are the
references on the way from one to the other, and the component inherits from none of them.  No octets
are taken for a keyword that is looked at in one of the two bodies. -/
theorem fields_eq_of_leads {s : Setting} {p p' : PlanState} {document : Value} {version : String}
    (hd : document.everyMap distinctTexts = true)
    (hread : readApi document version = .ok s.api) (hp : s.start.discoverSchemas = .ok p)
    (h : p.describeSchemas = .ok p') {name name' : String} {synonym component : Schema}
    (hsynonym : p'.schemas.get? name = some synonym)
    (hcomponent : p'.schemas.get? name' = some component) {i i' key key' : String}
    (hi : synonym.identities.head? = some i) (hi' : component.identities.head? = some i')
    (hkey : Pointer.segments? i = some (componentPath key))
    (hkey' : Pointer.segments? i' = some (componentPath key')) {body body' : Value}
    {refs : List String} (hbody : Pointer.resolve s.api.document i = .ok body)
    (hleads : Position.Leads s.api.document ⟨body, i⟩ refs ⟨body', i'⟩)
    (hrefs : ∀ ref ∈ refs, ¬ Declaration.Inherits s.api.document ⟨body', i'⟩ ref)
    (htext : body.SpellsAsText referenceKey)
    (htexts : ∀ keyword ∈ Declaration.keywords, body'.SpellsAsText keyword) :
    synonym.fields = component.fields := by
  obtain ⟨found, hfound, hfirst, hfields⟩ := p.exists_fieldsOf h hsynonym
  obtain ⟨found', hfound', hfirst', hfields'⟩ := p.exists_fieldsOf h hcomponent
  have hbody' : Pointer.resolve s.api.document i' = .ok body' := hleads.resolve_end hbody
  obtain ⟨hposition, hheld⟩ :=
    held_of_component hread hp hfound (hfirst ▸ hi) hkey hbody
  obtain ⟨hposition', hheld'⟩ :=
    held_of_component hread hp hfound' (hfirst' ▸ hi') hkey' hbody'
  have hdistinct {i : String} {body : Value} (hbody : Pointer.resolve s.api.document i = .ok body) :
      body.everyMap distinctTexts = true := by
    obtain ⟨path, hat⟩ := Position.At.of_resolve hbody
    exact Pointer.everyMap_locate? (distinctTexts_of_readApi hread hd) hat.located
  have hapi : p.api = s.api := by
    obtain ⟨f, -, rfl⟩ := Setting.discoverSchemas_start_eq_ok.1 hp
    rfl
  have hdeclared : Declaration.ofSchema s.api.document found.position =
      Declaration.ofSchema s.api.document found'.position :=
    calc Declaration.ofSchema s.api.document found.position
        = Declaration.ofSchema s.api.document ⟨found.node, i⟩ := by rw [hposition]
      _ = Declaration.ofSchema s.api.document ⟨body, i⟩ :=
        Declaration.ofSchema_held_of_leads hheld (hdistinct hbody) hleads htext htexts
      _ = Declaration.ofSchema s.api.document ⟨body', i'⟩ :=
        Declaration.ofSchema_of_leads hleads hrefs
      _ = Declaration.ofSchema s.api.document ⟨found'.node, i'⟩ :=
        (Declaration.ofSchema_held hheld' (hdistinct hbody') htexts).symm
      _ = Declaration.ofSchema s.api.document found'.position := by rw [hposition']
  -- The same properties are declared, and fields are made of them in one way.
  rw [Setting.fieldsOf, hapi, hdeclared] at hfields
  rw [Setting.fieldsOf, hapi] at hfields'
  exact Except.ok.inj (hfields.symm.trans hfields')

/-! ## Nicknames of pets -/

/-- Pets have what they are based on and a name.  One of their keys is an octet, but no keyword. -/
def basedPet : Value :=
  .map [(.str "allOf", .list [refTo "Base"]),
    (.str "properties", .ofFields [typedProperty "name" "string"]), (.bytes [97], .int 1)]

/-- What pets are based on. -/
def petBase : Value := .ofFields [("properties", .ofFields [typedProperty "id" "integer"])]

/-- A document in which nicknames are those of animals, and all animals are pets. -/
def nicknameDocument : Value :=
  answering "Nickname" [("Nickname", refTo "Animal"), ("Animal", refTo "Pet"), ("Pet", basedPet),
    ("Base", petBase)]

theorem node_of_drawsOn_basedPet {q : Position}
    (h : Declaration.DrawsOn nicknameDocument ⟨basedPet, "#/components/schemas/Pet"⟩ q) :
    q.node = basedPet ∨ q.node = refTo "Base" ∨ q.node = petBase := by
  induction h with
  | start => exact .inl rfl
  | reference _ href htarget ih =>
    rcases ih with h | h | h
    · rw [h] at href
      cases href
    · rw [h] at href
      cases href
      cases htarget
      exact .inr (.inr rfl)
    · rw [h] at href
      cases href
  | member _ href hmembers hm ih =>
    rcases ih with h | h | h
    · rw [h] at hmembers
      cases hmembers
      exact .inr (.inl (List.mem_singleton.1 (List.mem_of_getElem? hm)))
    · rw [h] at href
      cases href
    · rw [h] at hmembers
      cases hmembers
      cases hm

/-- Pets inherit from their base alone. -/
theorem eq_of_inherits_basedPet {ref : String} (h : Declaration.Inherits nicknameDocument
    ⟨basedPet, "#/components/schemas/Pet"⟩ ref) : ref = "#/components/schemas/Base" := by
  obtain ⟨q, hq, href⟩ := h
  rcases node_of_drawsOn_basedPet hq with h | h | h
  · rw [h] at href
    cases href
  · rw [h] at href
    cases href
    rfl
  · rw [h] at href
    cases href

/-- A description keeps a document whose own keys are texts. -/
theorem document_of_answering {key version : String} {components : List (String × Value)}
    {api : Api} (h : readApi (answering key components) version = .ok api) :
    api.document = answering key components := by
  have hfield : mappingField "raw" (answering key components) =
      .ok (answering key components) := by
    refine mappingField_eq_ok fun e he => ?_
    obtain ⟨field, -, rfl⟩ := List.mem_map.1 he
    rfl
  exact Except.ok.inj ((document_of_readApi h).symm.trans hfield)

/-- Nicknames have the fields of pets. -/
theorem fields_nickname : ∃ (p p' : PlanState) (synonym component : Schema),
    readApi nicknameDocument "3.0.3" = .ok p.api ∧
    (structuralSetting p.api).start.discoverSchemas = .ok p ∧ p.describeSchemas = .ok p' ∧
    p'.schemas.get? "Nickname" = some synonym ∧ p'.schemas.get? "Pet" = some component ∧
    component.fields.map (fun f => (f.name, f.type.text)) =
      [("id", "integer"), ("name", "string")] ∧
    synonym.fields = component.fields := by
  obtain ⟨p, p', hapi, hp, h, htest⟩ := exists_describeSchemas nicknameDocument 8
    (fun schemas => ((schemas.get? "Nickname").any fun schema =>
        schema.identities == ["#/components/schemas/Nickname"]) &&
      (schemas.get? "Pet").any fun schema => schema.identities == ["#/components/schemas/Pet"] &&
        schema.fields.map (fun f => (f.name, f.type.text)) ==
          [("id", "integer"), ("name", "string")]) (by decide +kernel)
  obtain ⟨htest, htest'⟩ := Bool.and_eq_true_iff.1 htest
  obtain ⟨synonym, hsynonym, hi⟩ := (Option.any_eq_true _ _).1 htest
  obtain ⟨component, hcomponent, htest'⟩ := (Option.any_eq_true _ _).1 htest'
  obtain ⟨hi', hfields⟩ := Bool.and_eq_true_iff.1 htest'
  have hdocument : (structuralSetting p.api).api.document = nicknameDocument :=
    document_of_answering hapi
  refine ⟨p, p', synonym, component, hapi, hp, h, hsynonym, hcomponent, eq_of_beq hfields, ?_⟩
  have hkey : Pointer.segments? "#/components/schemas/Nickname" =
      some (componentPath "Nickname") := rfl
  have hkey' : Pointer.segments? "#/components/schemas/Pet" = some (componentPath "Pet") := rfl
  have hbody : Pointer.resolve (structuralSetting p.api).api.document
      "#/components/schemas/Nickname" = .ok (refTo "Animal") := by rw [hdocument]; rfl
  have hleads : Position.Leads (structuralSetting p.api).api.document
      ⟨refTo "Animal", "#/components/schemas/Nickname"⟩
      ["#/components/schemas/Animal", "#/components/schemas/Pet"]
      ⟨basedPet, "#/components/schemas/Pet"⟩ := by
    rw [hdocument]
    exact .follow rfl rfl (.follow rfl rfl (.here rfl))
  refine fields_eq_of_leads (s := structuralSetting p.api) (by decide +kernel) hapi hp h hsynonym
    hcomponent (congrArg List.head? (eq_of_beq hi)) (congrArg List.head? (eq_of_beq hi')) hkey hkey'
    hbody hleads ?_ ?_ ?_
  · rw [hdocument]
    intro ref href hinherits
    cases eq_of_inherits_basedPet hinherits
    exact absurd href (by decide)
  · rintro _ ⟨⟩
    decide +kernel
  · rintro keyword hkeyword _ ⟨⟩
    revert keyword hkeyword
    decide +kernel

/-! ## A key of octets -/

/-- Pets have a property at a key that spells `properties` in octets. -/
def octetPet : Value :=
  .map [(.str "type", .str "object"),
    (.bytes [112, 114, 111, 112, 101, 114, 116, 105, 101, 115],
      .ofFields [typedProperty "name" "string"])]

/-- A document in which nicknames are those of such pets. -/
def octetNicknameDocument : Value :=
  answering "Nickname" [("Nickname", refTo "Pet"), ("Pet", octetPet)]

theorem node_of_drawsOn_octetPet {document : Value} {pointer : String} {q : Position}
    (h : Declaration.DrawsOn document ⟨octetPet, pointer⟩ q) : q.node = octetPet := by
  induction h with
  | start => rfl
  | reference _ href _ ih =>
    rw [ih] at href
    cases href
  | member _ _ hmembers hm ih =>
    rw [ih] at hmembers
    cases hmembers
    cases hm

/-- Nicknames lack the field that is read where the octets are kept as a text. -/
theorem fields_ne_of_octets : ∃ (p p' : PlanState) (synonym component : Schema),
    readApi octetNicknameDocument "3.0.3" = .ok p.api ∧
    (structuralSetting p.api).start.discoverSchemas = .ok p ∧ p.describeSchemas = .ok p' ∧
    p'.schemas.get? "Nickname" = some synonym ∧ p'.schemas.get? "Pet" = some component ∧
    synonym.identities = ["#/components/schemas/Nickname"] ∧
    component.identities = ["#/components/schemas/Pet"] ∧
    Pointer.resolve p.api.document "#/components/schemas/Nickname" = .ok (refTo "Pet") ∧
    Position.Leads p.api.document ⟨refTo "Pet", "#/components/schemas/Nickname"⟩
      ["#/components/schemas/Pet"] ⟨octetPet, "#/components/schemas/Pet"⟩ ∧
    (∀ ref, ¬ Declaration.Inherits p.api.document ⟨octetPet, "#/components/schemas/Pet"⟩ ref) ∧
    synonym.fields.map SchemaField.name = [] ∧ component.fields.map SchemaField.name = ["name"] := by
  obtain ⟨p, p', hapi, hp, h, htest⟩ := exists_describeSchemas octetNicknameDocument 8
    (fun schemas => ((schemas.get? "Nickname").any fun schema =>
        schema.identities == ["#/components/schemas/Nickname"] &&
          schema.fields.map SchemaField.name == []) &&
      (schemas.get? "Pet").any fun schema => schema.identities == ["#/components/schemas/Pet"] &&
        schema.fields.map SchemaField.name == ["name"]) (by decide +kernel)
  obtain ⟨htest, htest'⟩ := Bool.and_eq_true_iff.1 htest
  obtain ⟨synonym, hsynonym, htest⟩ := (Option.any_eq_true _ _).1 htest
  obtain ⟨component, hcomponent, htest'⟩ := (Option.any_eq_true _ _).1 htest'
  obtain ⟨hi, hfields⟩ := Bool.and_eq_true_iff.1 htest
  obtain ⟨hi', hfields'⟩ := Bool.and_eq_true_iff.1 htest'
  have hdocument : p.api.document = octetNicknameDocument := document_of_answering hapi
  refine ⟨p, p', synonym, component, hapi, hp, h, hsynonym, hcomponent, eq_of_beq hi,
    eq_of_beq hi', ?_, ?_, ?_, eq_of_beq hfields, eq_of_beq hfields'⟩
  · rw [hdocument]
    rfl
  · rw [hdocument]
    exact .follow rfl rfl (.here rfl)
  · rintro ref ⟨q, hq, href⟩
    rw [node_of_drawsOn_octetPet hq] at href
    cases href

end ClientPlan
