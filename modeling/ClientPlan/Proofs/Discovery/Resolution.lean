import ClientPlan.Proofs.Discovery.Grouping
import ClientPlan.Proofs.Discovery.Identity

/-!
# Identities resolve

The pointer of an inline node is never looked up: it is made next to the node, one part after
another, from the pointer of an endpoint or from a reference.  In a document with text keys it leads
to the node all the same, whatever the references are (`Meets.located`).  So every identity that has
a name resolves to a mapping, and the first identity of a schema resolves to its node.
-/

set_option autoImplicit false

namespace ClientPlan

namespace Setting

variable {s : Setting} {f : Found} {p q : Position} {declared : Option String}
  {log : List Registration}

/-- What a position stands for is located if the position is. -/
theorem StandsFor.located (hq : s.StandsFor p q declared) (hp : p.Located s.api.document) :
    ∃ path, q.At s.api.document path := by
  cases hq with
  | node hmap href => exact hp hmap
  | reference href htarget hmap => exact Position.At.of_resolve htarget

/-- Every mapping that is met is located. -/
theorem Meets.located (hd : s.api.document.hasTextKeys = true)
    (hindices : s.api.document.hasIndices = true)
    (hl : ∀ e ∈ s.api.endpoints, e.Located s.api.document) (hp : s.Meets p) :
    p.Located s.api.document := by
  induction hp with
  | @root e p he hincluded hp =>
    intro hmap
    obtain ⟨path, key, hat⟩ := (hl e he).at_content hp hmap
    exact ⟨_, hat⟩
  | @chain p q declared hp hq hr href ih =>
    -- What a reference resolves to is located whatever the reference is.
    exact fun _ => hq.located ih
  | @part p q m declared hp hq hr href hm ih =>
    obtain ⟨path, hat⟩ := hq.located ih
    obtain ⟨more, -, hpart⟩ := hat.part hd hindices hm
    exact hpart.isLocated

/-- Every identity with a name is the pointer of a located mapping. -/
theorem Recorded.located (h : s.Recorded log f) (hd : s.api.document.hasTextKeys = true)
    (hindices : s.api.document.hasIndices = true)
    (hl : ∀ e ∈ s.api.endpoints, e.Located s.api.document) {i name : String}
    (hi : f.names.get? i = some name) :
    ∃ (q : Position) (path : List String), q.pointer = i ∧ q.node.isMap = true ∧
      q.At s.api.document path := by
  obtain ⟨r, hr, rfl, rfl⟩ := h.get?_names.1 hi
  obtain ⟨p, q, declared, hp, hq, hdescribes, -⟩ := h.origin r hr
  obtain ⟨path, hat⟩ := hq.located (hp.located hd hindices hl)
  exact ⟨q, path, hdescribes.identity.symm, hq.isMap, hat⟩

/-- A schema stands where a position that is met does, at the first of its identities. -/
theorem Recorded.position_of_schema (h : s.Recorded log f)
    (hd : s.api.document.hasTextKeys = true) (hindices : s.api.document.hasIndices = true)
    (hl : ∀ e ∈ s.api.endpoints, e.Located s.api.document) {name : String} {schema : Schema}
    (hs : f.schemas.get? name = some schema) :
    ∃ p declared, s.Meets p ∧ s.StandsFor p schema.position declared ∧
      schema.identities.head? = some schema.position.pointer := by
  obtain ⟨p, q, declared, hp, hq, hfirst, -, hnode⟩ := h.node_eq hs
  obtain ⟨path, hat⟩ := hq.located (hp.located hd hindices hl)
  have heq : schema.position = q := by
    rw [mappingField_of_hasTextKeys (hat.hasTextKeys hd)] at hnode
    rw [Schema.position, hfirst, ← Except.ok.inj hnode]
    rfl
  rw [heq]
  exact ⟨p, declared, hp, hq, hfirst⟩

/-- The node of a schema is located at the first of its identities. -/
theorem Recorded.located_schema (h : s.Recorded log f) (hd : s.api.document.hasTextKeys = true)
    (hindices : s.api.document.hasIndices = true)
    (hl : ∀ e ∈ s.api.endpoints, e.Located s.api.document) {name : String} {schema : Schema}
    (hs : f.schemas.get? name = some schema) :
    ∃ path, schema.identities.head? = some schema.position.pointer ∧
      schema.position.At s.api.document path := by
  obtain ⟨p, declared, hp, hq, hfirst⟩ := h.position_of_schema hd hindices hl hs
  obtain ⟨path, hat⟩ := hq.located (hp.located hd hindices hl)
  exact ⟨path, hfirst, hat⟩

end Setting

/-- In a document with text keys and indices every identity that a discovery names resolves to a
mapping, and the first identity of a collected schema resolves to the node of the schema. -/
theorem resolve_of_discoverSchemas {s : Setting} {p : PlanState} {document : Value}
    {version : String} (hkeys : document.hasTextKeys = true)
    (hindices : document.hasIndices = true) (hread : readApi document version = .ok s.api)
    (h : s.start.discoverSchemas = .ok p) :
    (∀ i name, p.schemaNames.get? i = some name →
      ∃ node, Pointer.resolve document i = .ok node ∧ node.isMap = true) ∧
    ∀ name schema, p.schemas.get? name = some schema →
      ∃ i, schema.identities.head? = some i ∧
        Pointer.resolve document i = .ok schema.node := by
  obtain ⟨hdocument, hlocated⟩ := located_of_readApi hkeys hread
  obtain ⟨f, hf, rfl⟩ := Setting.discoverSchemas_start_eq_ok.1 h
  obtain ⟨log, hlog⟩ := Setting.recorded_of_discover hf
  subst hdocument
  constructor
  · intro i name hi
    obtain ⟨q, path, rfl, hmap, hat⟩ := hlog.located hkeys hindices hlocated hi
    exact ⟨q.node, hat.resolve, hmap⟩
  · intro name schema hs
    obtain ⟨path, hfirst, hat⟩ := hlog.located_schema hkeys hindices hlocated hs
    exact ⟨_, hfirst, hat.resolve⟩

/-- The identities of pets and their twins resolve. -/
theorem resolve_pets : petDocument.hasTextKeys = true ∧ petDocument.hasIndices = true ∧
    ∃ (s : Setting) (p : PlanState), readApi petDocument "3.0.3" = .ok s.api ∧
      s.start.discoverSchemas = .ok p ∧
      p.schemaNames.get? "#/components/schemas/pet/properties/twin" = some "Pet" ∧
      ∃ node, Pointer.resolve petDocument "#/components/schemas/pet/properties/twin" = .ok node ∧
        node.isMap = true := by
  have hkeys : petDocument.hasTextKeys = true := by decide +kernel
  have hindices : petDocument.hasIndices = true := by decide +kernel
  obtain ⟨api, f, hapi, hf, hname⟩ := Setting.exists_discover petDocument "3.0.3" defaultSetting 8
    (fun _ f => f.names.get? "#/components/schemas/pet/properties/twin" == some "Pet")
    (fun _ => rfl) (by decide +kernel)
  have hname := eq_of_beq hname
  have hp := Setting.discoverSchemas_start_eq_ok.2 ⟨f, hf, rfl⟩
  exact ⟨hkeys, hindices, defaultSetting api, _, hapi, hp, hname,
    (resolve_of_discoverSchemas (s := defaultSetting api) hkeys hindices hapi hp).1 _ _ hname⟩

end ClientPlan
