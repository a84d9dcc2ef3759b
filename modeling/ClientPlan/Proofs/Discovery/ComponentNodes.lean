import ClientPlan.Proofs.Api.Ways
import ClientPlan.Proofs.Discovery.Grouping
import ClientPlan.Proofs.Discovery.Identity

/-!
# Nodes of components

The pointer of an inline node is made next to the node and is never looked up, so in a document with
keys that are no texts it may lead elsewhere.  But no pointer to a component is made in this way,
unless a reference leads to where it is made: what is met at the pointer of a component stands there
(`StandsFor.at_component`).

Main statement: a schema whose first identity is a component has the node of that component, as a
field holds it (`held_of_component`).
-/

set_option autoImplicit false

namespace ClientPlan

/-- The keywords whose values are single schemas. -/
def singleKeywords : List String := ["items", "additionalProperties", "not"]

/-- A part of a schema stands at a keyword or below one. -/
theorem Position.Part.exists_steps {q m : Position} (h : q.Part m) :
    (∃ keyword ∈ singleKeywords, q.node.get? keyword = some m.node ∧
      m.pointer = Pointer.field q.pointer keyword) ∨
    ∃ keyword ∈ "properties" :: memberKeywords, ∃ step : Pointer.Segment,
      m.pointer = Pointer.join q.pointer [keyword, step] := by
  cases h with
  | property _ _ => exact .inr ⟨_, List.mem_cons_self, _, rfl⟩
  | items h => exact .inl ⟨_, by decide, h, rfl⟩
  | additional h => exact .inl ⟨_, by decide, h, rfl⟩
  | member hk _ _ => exact .inr ⟨_, List.mem_cons_of_mem _ hk, _, rfl⟩
  | negation h => exact .inl ⟨_, by decide, h, rfl⟩

/-- The pointer of a schema of an endpoint ends in that of a content type. -/
theorem Endpoint.Stands.exists_segments {document : Value} {e : Endpoint} (h : e.Stands document)
    {p : Position} (hp : e.HasSchema p) (hmap : p.node.isMap = true) :
    ∃ (path : List String) (key : String),
      Pointer.segments? p.pointer = some (path ++ ["content", key, "schema"]) := by
  have hmedia {m : Media} (hm : m.Stands document) (hmap : m.schema.isMap = true) :
      ∃ (path : List String) (key : String),
        Pointer.segments? m.pointer = some (path ++ ["content", key, "schema"]) := by
    obtain ⟨keys, key, node, hread⟩ := hm hmap
    obtain ⟨base, hbase⟩ := hread.way.exists_segments
    refine ⟨base ++ (keys.map Link.key).map Link.text, key.text, ?_⟩
    rw [List.map_append, List.map_append, ← List.append_assoc] at hbase
    exact hbase
  cases hp with
  | body hb hm => exact hmedia (h.body _ hb _ _ hm) hmap
  | response hr hc hm => exact hmedia (h.response _ _ _ hr hc _ _ hm) hmap

namespace Setting

variable {s : Setting} {document : Value} {p q m : Position} {declared : Option String}

theorem StandsFor.exists_segments (hq : s.StandsFor p q declared)
    (hp : p.node.isMap = true → ∃ path, Pointer.segments? p.pointer = some path) :
    ∃ path, Pointer.segments? q.pointer = some path := by
  cases hq with
  | node hmap _ => exact hp hmap
  | reference _ htarget _ =>
    obtain ⟨path, hat⟩ := Position.At.of_resolve htarget
    exact ⟨path, hat.segments⟩

section

variable (hs : ∀ e ∈ s.api.endpoints, e.Stands document)

include hs

/-- Every mapping that is met has a pointer with segments. -/
theorem Meets.exists_segments (hp : s.Meets p) (hmap : p.node.isMap = true) :
    ∃ path, Pointer.segments? p.pointer = some path := by
  induction hp with
  | root he _ hschema =>
    obtain ⟨path, key, hpath⟩ := (hs _ he).exists_segments hschema hmap
    exact ⟨_, hpath⟩
  | chain _ hq _ _ ih => exact hq.exists_segments ih
  | part _ hq _ _ hm ih =>
    obtain ⟨path, hpath⟩ := hq.exists_segments ih
    rcases hm.exists_steps with ⟨keyword, -, -, hpointer⟩ | ⟨keyword, -, step, hpointer⟩
    · exact ⟨_, by rw [hpointer, Pointer.field, Pointer.segments?_join hpath]⟩
    · exact ⟨_, by rw [hpointer, Pointer.segments?_join hpath]⟩

/-- An inline node is a schema of an endpoint, or stands at a keyword or below one of what a position
that is met stands for. -/
theorem Meets.inline_cases (hp : s.Meets p) (hmap : p.node.isMap = true)
    (href : p.node.get? referenceKey = none) :
    (∃ path key, Pointer.segments? p.pointer = some (path ++ ["content", key, "schema"])) ∨
    ∃ m q declared path, s.Meets m ∧ s.StandsFor m q declared ∧
      Pointer.segments? q.pointer = some path ∧
      ((∃ keyword ∈ singleKeywords, q.node.get? keyword = some p.node ∧
          p.pointer = Pointer.field q.pointer keyword ∧
          Pointer.segments? p.pointer = some (path ++ [keyword])) ∨
        ∃ keyword ∈ "properties" :: memberKeywords, ∃ step,
          Pointer.segments? p.pointer = some (path ++ [keyword, step])) := by
  cases hp with
  | root he _ hschema => exact .inl ((hs _ he).exists_segments hschema hmap)
  | chain _ _ _ hhas =>
    rw [Value.has, href] at hhas
    cases hhas
  | @part m q _ declared hm hq _ _ hpart =>
    obtain ⟨path, hpath⟩ := hq.exists_segments (hm.exists_segments hs)
    refine .inr ⟨m, q, declared, path, hm, hq, hpath, ?_⟩
    rcases hpart.exists_steps with ⟨keyword, hk, hget, hpointer⟩ | ⟨keyword, hk, step, hpointer⟩
    · refine .inl ⟨keyword, hk, hget, hpointer, ?_⟩
      rw [hpointer, Pointer.field, Pointer.segments?_join hpath]
      rfl
    · refine .inr ⟨keyword, hk, step.text, ?_⟩
      rw [hpointer, Pointer.segments?_join hpath]
      rfl

/-- No inline node stands where the components of a document do. -/
theorem Meets.segments_ne_components (hp : s.Meets p) (hmap : p.node.isMap = true)
    (href : p.node.get? referenceKey = none) :
    Pointer.segments? p.pointer ≠ some ["components", "schemas"] := by
  intro heq
  rcases hp.inline_cases hs hmap href with ⟨path, key, hpath⟩ |
    ⟨m, q, declared, path, -, -, -, ⟨keyword, hk, -, -, hpath⟩ | ⟨keyword, hk, step, hpath⟩⟩
  · have hlength := congrArg List.length (Option.some.inj (hpath.symm.trans heq))
    rw [List.length_append] at hlength
    have : path.length + 3 = 2 := hlength
    omega
  · have hsplit : path ++ [keyword] = ["components"] ++ ["schemas"] :=
      Option.some.inj (hpath.symm.trans heq)
    cases (List.append_inj' hsplit rfl).2
    exact absurd hk (by decide)
  · have hsplit : path ++ [keyword, step] = [] ++ ["components", "schemas"] :=
      Option.some.inj (hpath.symm.trans heq)
    cases (List.append_inj' hsplit rfl).2
    exact absurd hk (by decide)

/-- An inline node at the pointer of a component stands there. -/
theorem Meets.at_component (hp : s.Meets p) (hmap : p.node.isMap = true)
    (href : p.node.get? referenceKey = none) {key : String}
    (hkey : Pointer.segments? p.pointer = some (componentPath key)) :
    p.At s.api.document (componentPath key) := by
  rcases hp.inline_cases hs hmap href with ⟨path, key', hpath⟩ |
    ⟨m, q, declared, path, hm, hq, hqpath, ⟨keyword, -, hget, hpointer, hpath⟩ |
      ⟨keyword, hk, step, hpath⟩⟩
  · have hsplit : path ++ ["content", key', "schema"] = [] ++ ["components", "schemas", key] :=
      Option.some.inj (hpath.symm.trans hkey)
    exact absurd (List.cons.inj (List.append_inj' hsplit rfl).2).1 (by decide)
  · have hsplit : path ++ [keyword] = ["components", "schemas"] ++ [key] :=
      Option.some.inj (hpath.symm.trans hkey)
    obtain ⟨rfl, hlast⟩ := List.append_inj' hsplit rfl
    cases hlast
    cases hq with
    | node hmap' href' => exact absurd hqpath (hm.segments_ne_components hs hmap' href')
    | @reference ref target _ htarget _ =>
      -- What a reference names is located, and so is the value at the keyword.
      obtain ⟨path, hat⟩ := Position.At.of_resolve htarget
      cases hat.segments.symm.trans hqpath
      have hfield := hat.field hget
      rw [← hpointer] at hfield
      exact hfield
  · have hsplit : path ++ [keyword, step] = ["components"] ++ ["schemas", key] :=
      Option.some.inj (hpath.symm.trans hkey)
    cases (List.append_inj' hsplit rfl).2
    exact absurd hk (by decide)

/-- What is met at the pointer of a component stands there. -/
theorem StandsFor.at_component (hm : s.Meets m) (hq : s.StandsFor m q declared) {key : String}
    (hkey : Pointer.segments? q.pointer = some (componentPath key)) :
    q.At s.api.document (componentPath key) := by
  cases hq with
  | node hmap href => exact hm.at_component hs hmap href hkey
  | reference _ htarget _ =>
    obtain ⟨path, hat⟩ := Position.At.of_resolve htarget
    cases hat.segments.symm.trans hkey
    exact hat

end

end Setting

/-- A schema whose first identity is a component has the node of the component, as a field holds
it. -/
theorem held_of_component {s : Setting} {p : PlanState} {document : Value} {version : String}
    (hread : readApi document version = .ok s.api) (h : s.start.discoverSchemas = .ok p)
    {name : String} {schema : Schema} (hschema : p.schemas.get? name = some schema)
    {i key : String} {body : Value} (hfirst : schema.identities.head? = some i)
    (hkey : Pointer.segments? i = some (componentPath key))
    (hbody : Pointer.resolve s.api.document i = .ok body) :
    schema.position = ⟨schema.node, i⟩ ∧ mappingField "schema" body = .ok schema.node := by
  have hs : ∀ e ∈ s.api.endpoints, e.Stands document := by
    intro e he
    obtain ⟨item, hitem, he⟩ := List.mem_flatMap.1 he
    exact (stands_of_readApi hread item hitem).endpoints e he
  obtain ⟨m, q, declared, hm, hq, hhead, -, hheld, -⟩ :=
    (namesGrouped_of_discoverSchemas h).2 name schema hschema
  cases hfirst.symm.trans hhead
  have hat := hq.at_component hs hm hkey
  obtain rfl : q.node = body := Except.ok.inj (hat.resolve.symm.trans hbody)
  refine ⟨?_, hheld⟩
  rw [Schema.position, hfirst]
  rfl

end ClientPlan
