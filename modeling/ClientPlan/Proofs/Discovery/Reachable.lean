import ClientPlan.Proofs.Discovery.Visit
import ClientPlan.Proofs.OrderedMap

/-!
# Positions that can be reached

`Setting.Meets` says, without any order of visits, which positions a discovery has to look at: the
schemas of the included endpoints, where references lead to, and the parts of what is not left out.
What a visit leaves to be visited is met whenever the visited position is (`Meets.of_visits`).
-/

set_option autoImplicit false

namespace ClientPlan

/-! ## Parts -/

/-- The keywords whose values are lists of schemas. -/
def memberKeywords : List String := ["allOf", "anyOf", "oneOf"]

namespace Position

/-- A schema that stands directly inside another one. -/
inductive Part (p : Position) : Position → Prop where
  /-- A property. -/
  | property {entries : Entries} {name v : Value}
      (h : p.node.get? "properties" = some (.map entries)) (hv : (name, v) ∈ entries) :
      Part p ⟨v, Pointer.join p.pointer ["properties", .key name]⟩
  /-- The items. -/
  | items {v : Value} (h : p.node.get? "items" = some v) :
      Part p ⟨v, Pointer.field p.pointer "items"⟩
  /-- Further properties, if a mapping says what they are. -/
  | additional {entries : Entries} (h : p.node.get? "additionalProperties" = some (.map entries)) :
      Part p ⟨.map entries, Pointer.field p.pointer "additionalProperties"⟩
  /-- A member of a composition. -/
  | member {keyword : String} {members : List Value} {i : Nat} {v : Value}
      (hk : keyword ∈ memberKeywords) (h : p.node.get? keyword = some (.list members))
      (hv : members[i]? = some v) : Part p ⟨v, Pointer.item p.pointer keyword i⟩
  /-- What is excluded. -/
  | negation {v : Value} (h : p.node.get? "not" = some v) :
      Part p ⟨v, Pointer.field p.pointer "not"⟩

variable {p m : Position}

/-- Only mappings have parts. -/
theorem Part.isMap (h : p.Part m) : p.node.isMap = true := by
  cases h with
  | property h _ | items h | additional h | member _ h _ | negation h => exact Value.isMap_of_get? h

theorem mem_partAt_iff {keyword : String} :
    m ∈ p.partAt keyword ↔
      ∃ v, p.node.get? keyword = some v ∧ m = ⟨v, Pointer.field p.pointer keyword⟩ := by
  unfold partAt
  cases p.node.get? keyword <;> simp

theorem mem_mappingAt_iff {keyword : String} :
    m ∈ p.mappingAt keyword ↔ ∃ entries, p.node.get? keyword = some (.map entries) ∧
      m = ⟨.map entries, Pointer.field p.pointer keyword⟩ := by
  unfold mappingAt mapAt?
  split
  · next v hv =>
    split at hv
    · next entries h =>
      cases hv
      simp [h]
    · cases hv
  · next hv =>
    split at hv
    · cases hv
    · next hn => exact ⟨fun hm => (List.not_mem_nil hm).elim, fun ⟨_, h, _⟩ => (hn _ h).elim⟩

theorem mem_membersAt_iff {keyword : String} :
    m ∈ p.membersAt keyword ↔ ∃ members i v, p.node.get? keyword = some (.list members) ∧
      members[i]? = some v ∧ m = ⟨v, Pointer.item p.pointer keyword i⟩ := by
  unfold membersAt listAt?
  split
  · next l hl =>
    split at hl
    · next members h =>
      cases hl
      rw [memberPositions, List.mem_map]
      constructor
      · rintro ⟨⟨v, i⟩, hv, rfl⟩
        exact ⟨l, i, v, h, List.mem_zipIdx_iff_getElem?.1 hv, rfl⟩
      · rintro ⟨members, i, v, hm, hv, rfl⟩
        rw [h] at hm
        cases hm
        exact ⟨(v, i), List.mem_zipIdx_iff_getElem?.2 hv, rfl⟩
    · cases hl
  · next hl =>
    split at hl
    · cases hl
    · next hn =>
      constructor
      · intro hm
        cases hm
      · rintro ⟨members, -, -, h, -⟩
        exact absurd h (hn members)

theorem mem_entriesAt_iff {keyword : String} :
    m ∈ p.entriesAt keyword ↔ ∃ entries name v, p.node.get? keyword = some (.map entries) ∧
      (name, v) ∈ entries ∧ m = ⟨v, Pointer.join p.pointer [keyword, .key name]⟩ := by
  unfold entriesAt
  split
  · next entries h =>
    rw [List.mem_map, h]
    constructor
    · rintro ⟨⟨name, v⟩, hv, rfl⟩
      exact ⟨entries, name, v, rfl, hv, rfl⟩
    · rintro ⟨l, name, v, hl, hv, rfl⟩
      cases hl
      exact ⟨(name, v), hv, rfl⟩
  · next hn => exact ⟨fun hm => (List.not_mem_nil hm).elim, fun ⟨_, _, _, h, _⟩ => (hn _ h).elim⟩

/-- The parts that are visited are all parts there are. -/
theorem mem_children_iff : m ∈ p.children ↔ p.Part m := by
  simp only [children, List.mem_append, mem_entriesAt_iff, mem_partAt_iff, mem_mappingAt_iff,
    mem_membersAt_iff]
  constructor
  · rintro (⟨entries, name, v, h, hv, rfl⟩ | ⟨v, h, rfl⟩ | ⟨entries, h, rfl⟩ |
      ⟨members, i, v, h, hv, rfl⟩ | ⟨members, i, v, h, hv, rfl⟩ | ⟨members, i, v, h, hv, rfl⟩ |
      ⟨v, h, rfl⟩)
    · exact .property h hv
    · exact .items h
    · exact .additional h
    · exact .member (by decide) h hv
    · exact .member (by decide) h hv
    · exact .member (by decide) h hv
    · exact .negation h
  · intro h
    cases h with
    | property h hv => exact .inl ⟨_, _, _, h, hv, rfl⟩
    | items h => exact .inr (.inl ⟨_, h, rfl⟩)
    | additional h => exact .inr (.inr (.inl ⟨_, h, rfl⟩))
    | member hk h hv =>
      simp only [memberKeywords, List.mem_cons, List.not_mem_nil, or_false] at hk
      rcases hk with rfl | rfl | rfl
      · exact .inr (.inr (.inr (.inl ⟨_, _, _, h, hv, rfl⟩)))
      · exact .inr (.inr (.inr (.inr (.inl ⟨_, _, _, h, hv, rfl⟩))))
      · exact .inr (.inr (.inr (.inr (.inr (.inl ⟨_, _, _, h, hv, rfl⟩)))))
    | negation h => exact .inr (.inr (.inr (.inr (.inr (.inr ⟨_, h, rfl⟩)))))

end Position

/-! ## Schemas of endpoints -/

/-- A position of a schema in the request body or a response of an endpoint. -/
inductive Endpoint.HasSchema (e : Endpoint) : Position → Prop where
  /-- A schema of the request body. -/
  | body {b : RequestBody} {t : String} {m : Media} (hb : e.requestBody = some b)
      (hm : b.content.get? t = some m) : HasSchema e m.position
  /-- A schema of a response. -/
  | response {status : String} {r : Response} {c : Content} {t : String} {m : Media}
      (hr : e.responses.get? status = some r) (hc : r.content = some c) (hm : c.get? t = some m) :
      HasSchema e m.position

theorem Endpoint.mem_schemaPositions_iff {e : Endpoint} {p : Position} :
    p ∈ e.schemaPositions ↔ e.HasSchema p := by
  simp only [Endpoint.schemaPositions, List.map_append, List.mem_append, List.mem_map,
    List.mem_flatMap, OrderedMap.mem_values_iff]
  constructor
  · rintro (⟨m, ⟨⟨t, m⟩, ht, rfl⟩, rfl⟩ | ⟨m, ⟨r, ⟨status, hr⟩, hm⟩, rfl⟩)
    · split at ht
      · next b hb => exact .body hb (OrderedMap.get?_eq_some_iff.2 (List.mem_mergeSort.1 ht))
      · cases ht
    · split at hm
      · next c hc =>
        obtain ⟨t, hm⟩ := OrderedMap.mem_values_iff.1 hm
        exact .response hr hc hm
      · cases hm
  · intro h
    cases h with
    | @body b t m hb hm =>
      refine .inl ⟨m, ⟨(t, m), ?_, rfl⟩, rfl⟩
      rw [hb]
      exact List.mem_mergeSort.2 (OrderedMap.get?_eq_some_iff.1 hm)
    | @response status r c t m hr hc hm =>
      refine .inr ⟨m, ⟨r, ⟨status, hr⟩, ?_⟩, rfl⟩
      rw [hc]
      exact OrderedMap.mem_values_iff.2 ⟨t, hm⟩

/-! ## Positions that are met -/

namespace Setting

variable {s : Setting} {f f' : Found} {p q m : Position} {more : List Position}
  {declared : Option String}

/-- The policy leaves out what stands at a place under a name. -/
def Rejects (s : Setting) (q : Position) (declared : Option String) : Prop :=
  ∃ r : Registration, r.Describes q declared ∧ s.admits r = .ok false

/-- The positions that a discovery looks at. -/
inductive Meets (s : Setting) : Position → Prop where
  /-- A schema of an included endpoint. -/
  | root {e : Endpoint} {p : Position} (he : e ∈ s.api.endpoints)
      (hincluded : s.includes e = .ok true) (hp : e.HasSchema p) : Meets s p
  /-- A place that is itself a reference. -/
  | chain {p q : Position} {declared : Option String} (hp : Meets s p)
      (hq : s.StandsFor p q declared) (hr : ¬ s.Rejects q declared)
      (href : q.node.has referenceKey = true) : Meets s q
  /-- A part of a place. -/
  | part {p q m : Position} {declared : Option String} (hp : Meets s p)
      (hq : s.StandsFor p q declared) (hr : ¬ s.Rejects q declared)
      (href : q.node.has referenceKey = false) (hm : q.Part m) : Meets s m

/-- What is to be visited below a place that is met is met. -/
theorem Meets.of_mem_below (hp : s.Meets p) (hq : s.StandsFor p q declared)
    (hr : ¬ s.Rejects q declared) (hm : m ∈ Setting.below q) : s.Meets m := by
  unfold Setting.below at hm
  split at hm
  · next href =>
    rw [List.mem_singleton] at hm
    subst hm
    exact .chain hp hq hr href
  · next href =>
    exact .part hp hq hr (Bool.eq_false_iff.2 href) (Position.mem_children_iff.1 hm)

theorem not_rejects_of_unplaced (h : q.pointer = "") : ¬ s.Rejects q declared := by
  rintro ⟨r, hr, -⟩
  exact hr.placed h

theorem not_rejects_of_unnamed (h : Naming.typeName (declared.getD "") = "") :
    ¬ s.Rejects q declared := by
  rintro ⟨r, hr, -⟩
  exact hr.named (hr.finalName.trans h)

theorem not_rejects_of_admits {r : Registration} (hr : r.Describes q declared)
    (ha : s.admits r = .ok true) : ¬ s.Rejects q declared := by
  rintro ⟨r', hr', ha'⟩
  rw [hr'.eq hr, ha] at ha'
  cases ha'

/-- A visit leaves only positions that are met. -/
theorem Meets.of_visits (hp : s.Meets p) (h : s.Visits f p more f') : ∀ m ∈ more, s.Meets m := by
  intro m hm
  cases h with
  | notMap hmap => cases hm
  | again hi hv => cases hm
  | dead href hv htarget hmap => cases hm
  | rejected hq hv hr ha => cases hm
  | unplaced hq hplace => exact hp.of_mem_below hq (not_rejects_of_unplaced hplace) hm
  | unnamed hq hplace hv hname => exact hp.of_mem_below hq (not_rejects_of_unnamed hname) hm
  | recorded hq hv hr ha => exact hp.of_mem_below hq (not_rejects_of_admits hr ha) hm

/-- A property holds at the end of a discovery if it is kept by every visit of a position that is
met, by starting with an included endpoint and by passing over another. -/
theorem discover_induction {P : List Endpoint → List Position → Found → Prop}
    (hvisit : ∀ {todo p rest f more f'}, s.Meets p → P todo (p :: rest) f → s.Visits f p more f' →
      P todo (more ++ rest) f')
    (hstart : ∀ {e todo f}, P (e :: todo) [] f → s.includes e = .ok true →
      P todo e.schemaPositions f)
    (hpass : ∀ {e todo f}, P (e :: todo) [] f → s.includes e = .ok false → P todo [] f)
    {schemas : SchemaMap} {names : SchemaNames}
    (hP : P s.api.endpoints [] ⟨names.keys, schemas, names⟩)
    (h : s.discover schemas names = .ok f) : P [] [] f := by
  let Q : List Endpoint → List Position → Found → Prop := fun todo work f =>
    todo ⊆ s.api.endpoints ∧ (∀ p ∈ work, s.Meets p) ∧ P todo work f
  have hQ : Q s.api.endpoints [] ⟨names.keys, schemas, names⟩ :=
    ⟨List.Subset.refl _, fun p hp => (List.not_mem_nil hp).elim, hP⟩
  refine (discoverAll_induction (P := Q) ?_ ?_ ?_ hQ h).2.2
  · rintro todo p rest f more f' ⟨htodo, hwork, hPf⟩ hv
    have hp : s.Meets p := hwork p List.mem_cons_self
    refine ⟨htodo, ?_, hvisit hp hPf hv⟩
    intro m hm
    rcases List.mem_append.1 hm with hm | hm
    · exact hp.of_visits hv m hm
    · exact hwork m (List.mem_cons_of_mem _ hm)
  · rintro e todo f ⟨htodo, -, hPf⟩ hincluded
    refine ⟨List.subset_of_cons_subset htodo, ?_, hstart hPf hincluded⟩
    intro p hp
    exact .root (htodo List.mem_cons_self) hincluded (Endpoint.mem_schemaPositions_iff.1 hp)
  · rintro e todo f ⟨htodo, hwork, hPf⟩ hexcluded
    exact ⟨List.subset_of_cons_subset htodo, hwork, hpass hPf hexcluded⟩

end Setting

end ClientPlan
