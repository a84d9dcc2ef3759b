import ClientPlan.Proofs.Discovery.Bounded
import ClientPlan.Proofs.Discovery.Grouping
import ClientPlan.Proofs.Discovery.Identity

/-!
# A discovery collects what can be reached

`Setting.Explored` is what every visit keeps of a discovery in a self-contained description: what is
below a visited place has been seen or is still to be visited, and every visited place that the
policy collects is registered.  When nothing is left to be visited, every position that is met has
been seen.
-/

set_option autoImplicit false

namespace ClientPlan

namespace Setting

variable {s : Setting} {f f' : Found} {p q m : Position} {more rest : List Position}
  {todo : List Endpoint} {log log' : List Registration} {declared : Option String}

/-! ## What has been seen -/

/-- What stands for a position has been visited. -/
def Seen (s : Setting) (f : Found) (p : Position) : Prop :=
  ∀ q declared, s.StandsFor p q declared → q.pointer ∈ f.visited

/-- A position has been seen, or it is still to be visited. -/
def Reaches (s : Setting) (work : List Position) (f : Found) (p : Position) : Prop :=
  p ∈ work ∨ s.Seen f p

/-- The policy collects what stands at a place under a name. -/
def Collects (s : Setting) (q : Position) (declared : Option String) (r : Registration) : Prop :=
  r.Describes q declared ∧ s.admits r = .ok true

theorem Seen.mono (h : s.Seen f p) (hv : f.visited ⊆ f'.visited) : s.Seen f' p :=
  fun q declared hq => hv (h q declared hq)

theorem seen_of_mem {i : String} (hi : p.IsIdentity i) (hv : i ∈ f.visited) : s.Seen f p := by
  intro q declared hq
  rw [hq.pointer_eq hi]
  exact hv

/-- What was to be visited next has been seen, or it is still to be visited. -/
theorem Reaches.next (h : s.Reaches (p :: rest) f m) (more : List Position) (hp : s.Seen f' p)
    (hv : f.visited ⊆ f'.visited) : s.Reaches (more ++ rest) f' m := by
  rcases h with h | h
  · rcases List.mem_cons.1 h with rfl | h
    · exact .inr hp
    · exact .inl (List.mem_append_right _ h)
  · exact .inr (h.mono hv)

/-! ## What has been explored -/

/-- How far a discovery has come when some endpoints and positions are left. -/
structure Explored (s : Setting) (todo : List Endpoint) (work : List Position) (f : Found)
    (log : List Registration) : Prop where
  /-- What has been found is made from the log. -/
  recorded : s.Recorded log f
  /-- The schemas of the included endpoints are reached. -/
  roots : ∀ e ∈ s.api.endpoints, s.includes e = .ok true →
    e ∈ todo ∨ ∀ p, e.HasSchema p → s.Reaches work f p
  /-- What is below a visited place that is not left out is reached. -/
  closed : ∀ p q declared, s.Meets p → s.StandsFor p q declared → q.pointer ∈ f.visited →
    ¬ s.Rejects q declared → ∀ m ∈ below q, s.Reaches work f m
  /-- What is collected at a visited place is registered. -/
  collected : ∀ p q declared r, s.Meets p → s.StandsFor p q declared → q.pointer ∈ f.visited →
    s.Collects q declared r → r ∈ log

/-- A visit that finds nothing new goes on to the next position. -/
theorem Explored.skip (h : s.Explored todo (p :: rest) f log) (hp : s.Seen f p) :
    s.Explored todo rest f log where
  recorded := h.recorded
  roots := by
    intro e he hincluded
    refine (h.roots e he hincluded).imp_right fun hroots m hm => ?_
    exact (hroots m hm).next [] hp (List.Subset.refl _)
  closed := by
    intro p' q declared hp' hq hv hr m hm
    exact (h.closed p' q declared hp' hq hv hr m hm).next [] hp (List.Subset.refl _)
  collected := h.collected

/-- A visit of something new keeps what has been explored if it goes on to all that is below it and
registers what is collected there. -/
theorem Explored.visit (h : s.Explored todo (p :: rest) f log) {i : String} (hp : s.Seen f' p)
    (hv : f'.visited = i :: f.visited) (hrecorded : s.Recorded log' f') (hlog : log ⊆ log')
    (hnew : ∀ p q declared, s.Meets p → s.StandsFor p q declared → q.pointer = i →
      (¬ s.Rejects q declared → below q ⊆ more) ∧ ∀ r, s.Collects q declared r → r ∈ log') :
    s.Explored todo (more ++ rest) f' log' where
  recorded := hrecorded
  roots := by
    intro e he hincluded
    refine (h.roots e he hincluded).imp_right fun hroots m hm => ?_
    exact (hroots m hm).next more hp (hv ▸ List.subset_cons_self _ _)
  closed := by
    intro p' q declared hp' hq hq' hr m hm
    rw [hv] at hq'
    rcases List.mem_cons.1 hq' with hq' | hq'
    · exact .inl (List.mem_append_left _ ((hnew p' q declared hp' hq hq').1 hr hm))
    · have hclosed := h.closed p' q declared hp' hq hq' hr m hm
      exact hclosed.next more hp (hv ▸ List.subset_cons_self _ _)
  collected := by
    intro p' q declared r hp' hq hq' hr
    rw [hv] at hq'
    rcases List.mem_cons.1 hq' with hq' | hq'
    · exact (hnew p' q declared hp' hq hq').2 r hr
    · exact hlog (h.collected p' q declared r hp' hq hq' hr)

theorem not_collects_of_rejects {r : Registration} (h : s.Rejects q declared) :
    ¬ s.Collects q declared r :=
  fun hr => not_rejects_of_admits hr.1 hr.2 h

/-- Every visit keeps what has been explored. -/
theorem Explored.of_visits (hs : s.SelfContained) (h : s.Explored todo (p :: rest) f log)
    (hp : s.Meets p) (hv : s.Visits f p more f') :
    ∃ log', s.Explored todo (more ++ rest) f' log' := by
  cases hv with
  | notMap hmap =>
    refine ⟨log, h.skip fun q declared hq => ?_⟩
    rw [hq.source_isMap] at hmap
    cases hmap
  | again hi hv => exact ⟨log, h.skip (seen_of_mem hi hv)⟩
  | @dead ref v href hv htarget hmap =>
    refine ⟨log, h.visit (seen_of_mem (.inl href) List.mem_cons_self) rfl (h.recorded.visit ref)
      (List.Subset.refl _) ?_⟩
    intro p' q declared hp' hq hpointer
    exact absurd hpointer (hq.pointer_ne_dead hs hp' hp href htarget hmap)
  | unplaced hq hplace => exact absurd hplace (hs.placed hp hq)
  | @unnamed q declared hq hplace hv hname =>
    refine ⟨log, h.visit (seen_of_mem hq.isIdentity List.mem_cons_self) rfl
      (h.recorded.visit q.pointer) (List.Subset.refl _) ?_⟩
    intro p' q' declared' hp' hq' hpointer
    obtain ⟨rfl, rfl⟩ := hq'.unique hs hp' hp hq hpointer
    refine ⟨fun _ => List.Subset.refl _, fun r hr => ?_⟩
    exact absurd (hr.1.finalName.trans hname) hr.1.named
  | @rejected q declared r hq hv hr ha =>
    refine ⟨log, h.visit (seen_of_mem hq.isIdentity List.mem_cons_self) rfl
      (h.recorded.visit q.pointer) (List.Subset.refl _) ?_⟩
    intro p' q' declared' hp' hq' hpointer
    obtain ⟨rfl, rfl⟩ := hq'.unique hs hp' hp hq hpointer
    have hrejects : s.Rejects q' declared' := ⟨r, hr, ha⟩
    refine ⟨fun hnot => absurd hrejects hnot, fun r' hr' => ?_⟩
    exact absurd hr' (not_collects_of_rejects hrejects)
  | @recorded q declared r hq hv hr ha =>
    have hregisters : s.Registers r := ⟨p, q, declared, hp, hq, hr, ha⟩
    have hrecorded := h.recorded.record hregisters (hr.identity ▸ hv)
    rw [hr.identity] at hrecorded
    refine ⟨log ++ [r], h.visit (seen_of_mem hq.isIdentity List.mem_cons_self) rfl hrecorded
      (List.subset_append_left _ _) ?_⟩
    intro p' q' declared' hp' hq' hpointer
    obtain ⟨rfl, rfl⟩ := hq'.unique hs hp' hp hq hpointer
    refine ⟨fun _ => List.Subset.refl _, fun r' hr' => ?_⟩
    rw [hr'.1.eq hr]
    exact List.mem_append_right _ (List.mem_singleton_self r)

/-- At the end of a discovery nothing is left to be explored. -/
theorem explored_of_discover (hs : s.SelfContained)
    (h : s.discover OrderedMap.empty OrderedMap.empty = .ok f) : ∃ log, s.Explored [] [] f log := by
  refine discover_induction (P := fun todo work f => ∃ log, s.Explored todo work f log)
    ?_ ?_ ?_ ?_ h
  · rintro todo p rest f more f' hp ⟨log, hlog⟩ hv
    exact hlog.of_visits hs hp hv
  · rintro e todo f ⟨log, hlog⟩ hincluded
    refine ⟨log, hlog.recorded, ?_, ?_, hlog.collected⟩
    · intro e' he' hincluded'
      rcases hlog.roots e' he' hincluded' with he | hroots
      · rcases List.mem_cons.1 he with rfl | he
        · exact .inr fun p hp => .inl (Endpoint.mem_schemaPositions_iff.2 hp)
        · exact .inl he
      · exact .inr fun p hp => (hroots p hp).imp_left fun hp => (List.not_mem_nil hp).elim
    · intro p q declared hp hq hv hr m hm
      exact (hlog.closed p q declared hp hq hv hr m hm).imp_left
        fun hm => (List.not_mem_nil hm).elim
  · rintro e todo f ⟨log, hlog⟩ hexcluded
    refine ⟨log, hlog.recorded, ?_, hlog.closed, hlog.collected⟩
    intro e' he' hincluded'
    refine (hlog.roots e' he' hincluded').imp_left fun he => ?_
    rcases List.mem_cons.1 he with rfl | he
    · rw [hexcluded] at hincluded'
      cases hincluded'
    · exact he
  · refine ⟨[], ?_, fun e he _ => .inl he, ?_, ?_⟩
    · exact ⟨rfl, rfl, List.nil_subset _, List.nodup_nil, fun r hr => (List.not_mem_nil hr).elim⟩
    · intro p q declared hp hq hv
      exact (List.not_mem_nil hv).elim
    · intro p q declared r hp hq hv
      exact (List.not_mem_nil hv).elim

theorem Reaches.seen (h : s.Reaches [] f p) : s.Seen f p :=
  h.resolve_left List.not_mem_nil

/-- When nothing is left, every position that is met has been seen. -/
theorem Explored.seen (h : s.Explored [] [] f log) (hp : s.Meets p) : s.Seen f p := by
  induction hp with
  | root he hincluded hp =>
    exact ((h.roots _ he hincluded).resolve_left List.not_mem_nil _ hp).seen
  | @chain p q declared hp hq hr href ih =>
    refine (h.closed p q declared hp hq (ih q declared hq) hr q ?_).seen
    rw [below, if_pos href]
    exact List.mem_singleton_self q
  | @part p q m declared hp hq hr href hm ih =>
    refine (h.closed p q declared hp hq (ih q declared hq) hr m ?_).seen
    rw [below, href, if_neg Bool.false_ne_true]
    exact Position.mem_children_iff.2 hm

/-- What is registered is what is collected at the places of positions that are met. -/
theorem Explored.mem_log_iff (h : s.Explored [] [] f log) {r : Registration} :
    r ∈ log ↔ ∃ p q declared, s.Meets p ∧ s.StandsFor p q declared ∧ s.Collects q declared r := by
  constructor
  · intro hr
    obtain ⟨p, q, declared, hp, hq, hd, ha⟩ := h.recorded.origin r hr
    exact ⟨p, q, declared, hp, hq, hd, ha⟩
  · rintro ⟨p, q, declared, hp, hq, hr⟩
    exact h.collected p q declared r hp hq (h.seen hp q declared hq) hr

end Setting

/-- In a description that is read from a document with text keys and indices in which every reference
that is met names a component, a discovery names exactly the places of the positions that are met,
each by its declared name in type case, as long as that is not empty and the policy collects the
schema. -/
theorem get?_schemaNames_iff {s : Setting} {p : PlanState} {document : Value} {version : String}
    (hkeys : document.hasTextKeys = true) (hindices : document.hasIndices = true)
    (hread : readApi document version = .ok s.api)
    (hrefs : ∀ m r, s.Meets m → m.node.get? referenceKey = some r →
      ∃ key, r = .str (componentStart ++ Pointer.escape key))
    (h : s.start.discoverSchemas = .ok p) (i name : String) :
    p.schemaNames.get? i = some name ↔ ∃ m q declared, s.Meets m ∧ s.StandsFor m q declared ∧
      i = q.pointer ∧ name = Naming.typeName (declared.getD "") ∧ name ≠ "" ∧
      s.policy.includesSchema s.config
        { finalName := name, identities := [i], node := q.node } = .ok true := by
  obtain ⟨hdocument, hlocated⟩ := located_of_readApi hkeys hread
  rw [← hdocument] at hkeys hindices hlocated
  have hs : s.SelfContained := ⟨hkeys, hindices, hlocated, hrefs⟩
  obtain ⟨f, hf, rfl⟩ := Setting.discoverSchemas_start_eq_ok.1 h
  obtain ⟨log, hlog⟩ := Setting.explored_of_discover hs hf
  have hfield : ∀ {m q declared}, s.Meets m → s.StandsFor m q declared →
      mappingField "schema" q.node = .ok q.node := by
    intro m q declared hm hq
    obtain ⟨path, hpath, -⟩ := hs.at_place hm hq (hs.inline hm)
    exact mappingField_of_hasTextKeys (hpath.hasTextKeys hs.textKeys)
  rw [show _ = f.names.get? i from rfl, hlog.recorded.get?_names]
  constructor
  · rintro ⟨r, hr, rfl, rfl⟩
    obtain ⟨m, q, declared, hm, hq, hd, ha⟩ := hlog.mem_log_iff.1 hr
    refine ⟨m, q, declared, hm, hq, hd.identity, hd.finalName, hd.named, ?_⟩
    have hnode : r.node = q.node := Except.ok.inj (hd.node.symm.trans (hfield hm hq))
    rw [← hnode]
    exact ha
  · rintro ⟨m, q, declared, hm, hq, rfl, rfl, hname, ha⟩
    let r : Registration := ⟨q.pointer, Naming.typeName (declared.getD ""), q.node⟩
    have hd : r.Describes q declared := ⟨rfl, rfl, hs.placed hm hq, hname, hfield hm hq⟩
    exact ⟨r, hlog.mem_log_iff.2 ⟨m, q, declared, hm, hq, hd, ha⟩, rfl, rfl⟩

/-- The twin of a pet is named, so it is the place of a position that is met. -/
theorem get?_schemaNames_twin : ∃ (s : Setting) (p : PlanState),
    petDocument.hasTextKeys = true ∧ petDocument.hasIndices = true ∧
    readApi petDocument "3.0.3" = .ok s.api ∧ s.start.discoverSchemas = .ok p ∧
    p.schemaNames.get? "#/components/schemas/pet/properties/twin" = some "Pet" ∧
    ∃ (m q : Position) (declared : Option String), s.Meets m ∧ s.StandsFor m q declared ∧
      "#/components/schemas/pet/properties/twin" = q.pointer ∧
      "Pet" = Naming.typeName (declared.getD "") := by
  obtain ⟨api, f, hapi, hf, htest⟩ := Setting.exists_discover petDocument "3.0.3"
    defaultSetting 8
    (fun _ f => f.names.get? "#/components/schemas/pet/properties/twin" == some "Pet")
    (fun _ => rfl) (by decide +kernel)
  have hkeys : petDocument.hasTextKeys = true := by decide +kernel
  have hindices : petDocument.hasIndices = true := by decide +kernel
  have hcomponents : petDocument.everyMap namesComponent = true := by decide +kernel
  obtain ⟨hdocument, hlocated⟩ := located_of_readApi hkeys hapi
  rw [← hdocument] at hcomponents hlocated
  have hname := eq_of_beq htest
  have hp := Setting.discoverSchemas_start_eq_ok.2 ⟨f, hf, rfl⟩
  obtain ⟨m, q, declared, hm, hq, hi, hn, -⟩ := (get?_schemaNames_iff hkeys hindices hapi
    (fun m r hm => Setting.exists_key_of_everyMap hcomponents hlocated hm) hp _ _).1 hname
  exact ⟨defaultSetting api, _, hkeys, hindices, hapi, hp, hname, m, q, declared, hm, hq,
    hi, hn⟩

end ClientPlan
