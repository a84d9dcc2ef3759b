import ClientPlan.Proofs.Discovery.Reachable
import ClientPlan.Proofs.Discovery.Resolution

/-!
# What a discovery has passed

Only identities are remembered by a discovery, and a position whose identity is remembered is passed
over.  `Setting.Swept` keeps the positions that have been passed next to what has been found: what
is below them has been passed or is still to be visited.  If no text is the identity of two nodes,
and a place is left out however it is met or not at all, a discovery passes every position that is
met (`Swept.mem_passed`).
-/

set_option autoImplicit false

namespace ClientPlan

namespace Setting

variable {s : Setting} {f f' : Found} {p q m p' q' : Position}
  {more rest passed work : List Position} {todo : List Endpoint}
  {declared declared' : Option String} {i : String}

/-! ## One node for each identity -/

/-- No text is the identity of two nodes that are met. -/
structure OneNode (s : Setting) : Prop where
  /-- Places with one identity have one node. -/
  place : ∀ {p q p' q' : Position} {declared declared' : Option String}, s.Meets p →
    s.StandsFor p q declared → s.Meets p' → s.StandsFor p' q' declared' → q.pointer ≠ "" →
      q.pointer = q'.pointer → q.node = q'.node
  /-- A reference that leads to no mapping is the identity of no place. -/
  dead : ∀ {p q m : Position} {declared : Option String} {ref : String} {v : Value}, s.Meets p →
    s.StandsFor p q declared → s.Meets m → m.node.get? referenceKey = some (.str ref) →
      Pointer.resolve s.api.document ref = .ok v → v.isMap = false → q.pointer ≠ ref

/-- Places with one identity are the same. -/
theorem OneNode.eq (h : s.OneNode) (hp : s.Meets p) (hq : s.StandsFor p q declared)
    (hp' : s.Meets p') (hq' : s.StandsFor p' q' declared') (hplace : q.pointer ≠ "")
    (heq : q.pointer = q'.pointer) : q = q' := by
  have hnode := h.place hp hq hp' hq' hplace heq
  cases q
  cases q'
  dsimp only at heq hnode
  rw [heq, hnode]

/-- In a document with text keys and indices no text is the identity of two nodes, since an identity
is the pointer to its node. -/
theorem oneNode_of_located (hd : s.api.document.hasTextKeys = true)
    (hindices : s.api.document.hasIndices = true)
    (hl : ∀ e ∈ s.api.endpoints, e.Located s.api.document) : s.OneNode where
  place := by
    intro p q p' q' declared declared' hp hq hp' hq' _ heq
    obtain ⟨path, hat⟩ := hq.located (hp.located hd hindices hl)
    obtain ⟨path', hat'⟩ := hq'.located (hp'.located hd hindices hl)
    rw [hat.eq_of_pointer_eq hat' heq]
  dead := by
    intro p q m declared ref v hp hq _ _ htarget hmap heq
    obtain ⟨path, hat⟩ := hq.located (hp.located hd hindices hl)
    obtain ⟨path', hat'⟩ := Position.At.of_resolve htarget
    have hisMap := hq.isMap
    rw [hat.eq_of_pointer_eq hat' heq, hmap] at hisMap
    cases hisMap

/-- A place is left out however it is met, or not at all. -/
def RejectsAlike (s : Setting) : Prop :=
  ∀ p p' q declared declared', s.Meets p → s.StandsFor p q declared → s.Meets p' →
    s.StandsFor p' q declared' → s.Rejects q declared → s.Rejects q declared'

/-! ## What has been passed -/

/-- A position has an identity that is remembered once it has been visited. -/
inductive Identifies (s : Setting) (p : Position) (i : String) : Prop where
  /-- That of the place that it stands for. -/
  | place {q : Position} {declared : Option String} (hq : s.StandsFor p q declared)
      (hi : q.pointer = i) (hplace : i ≠ "")
  /-- That of something that is no schema. -/
  | dead {v : Value} (href : p.node.get? referenceKey = some (.str i))
      (htarget : Pointer.resolve s.api.document i = .ok v) (hmap : v.isMap = false)

/-- How far a discovery has come when some endpoints and positions are left and others have been
passed. -/
structure Swept (s : Setting) (todo : List Endpoint) (work passed : List Position) (f : Found) :
    Prop where
  /-- What has been passed is met. -/
  met : ∀ p ∈ passed, s.Meets p
  /-- The schemas of the included endpoints have been passed or are still to be visited. -/
  roots : ∀ e ∈ s.api.endpoints, s.includes e = .ok true →
    e ∈ todo ∨ ∀ p, e.HasSchema p → p ∈ passed ++ work
  /-- What is remembered is the identity of something that has been passed. -/
  identified : ∀ i ∈ f.visited, ∃ p ∈ passed, s.Identifies p i
  /-- References that have been passed are remembered. -/
  references : ∀ p ∈ passed, ∀ r, p.node.get? referenceKey = some r →
    ∃ ref ∈ f.visited, r = .str ref
  /-- What is below a passed position has been passed or is still to be visited, unless the place is
  left out. -/
  closed : ∀ p ∈ passed, ∀ q declared, s.StandsFor p q declared → ¬ s.Rejects q declared →
    below q ⊆ passed ++ work

theorem mem_next (h : m ∈ passed ++ (p :: rest)) (more : List Position) :
    m ∈ (p :: passed) ++ (more ++ rest) := by
  simp only [List.mem_append, List.mem_cons] at h ⊢
  rcases h with h | h | h
  · exact .inl (.inr h)
  · exact .inl (.inl h)
  · exact .inr (.inr h)

/-- A visit passes a position if it remembers its identity and goes on to what is below it. -/
theorem Swept.pass (h : s.Swept todo (p :: rest) passed f) (hp : s.Meets p)
    (hvisited : f.visited ⊆ f'.visited)
    (hidentified : ∀ i ∈ f'.visited, i ∈ f.visited ∨ s.Identifies p i)
    (href : ∀ r, p.node.get? referenceKey = some r → ∃ ref ∈ f'.visited, r = .str ref)
    (hclosed : ∀ q declared, s.StandsFor p q declared → ¬ s.Rejects q declared →
      below q ⊆ (p :: passed) ++ (more ++ rest)) :
    s.Swept todo (more ++ rest) (p :: passed) f' where
  met := List.forall_mem_cons.2 ⟨hp, h.met⟩
  roots := by
    intro e he hincluded
    refine (h.roots e he hincluded).imp_right fun hroots m hm => ?_
    exact mem_next (hroots m hm) more
  identified := by
    intro i hi
    rcases hidentified i hi with hi | hi
    · obtain ⟨p', hp', hi⟩ := h.identified i hi
      exact ⟨p', List.mem_cons_of_mem p hp', hi⟩
    · exact ⟨p, List.mem_cons_self, hi⟩
  references := by
    refine List.forall_mem_cons.2 ⟨href, fun p' hp' r hr => ?_⟩
    obtain ⟨ref, hmem, hr⟩ := h.references p' hp' r hr
    exact ⟨ref, hvisited hmem, hr⟩
  closed := by
    refine List.forall_mem_cons.2 ⟨hclosed, fun p' hp' q declared hq hr m hm => ?_⟩
    exact mem_next (h.closed p' hp' q declared hq hr hm) more

/-- A visit that remembers the identity of a place and goes on to all below it passes the
position. -/
theorem Swept.pass_place (h : s.Swept todo (p :: rest) passed f) (hp : s.Meets p)
    (hq : s.StandsFor p q declared) (hplace : q.pointer ≠ "")
    (hvisited : f'.visited = q.pointer :: f.visited)
    (hmore : ¬ s.Rejects q declared → more = below q) :
    s.Swept todo (more ++ rest) (p :: passed) f' := by
  refine h.pass hp (hvisited ▸ List.subset_cons_self _ _) ?_ ?_ ?_
  · intro i hi
    rw [hvisited] at hi
    rcases List.mem_cons.1 hi with rfl | hi
    · exact .inr (.place hq rfl hplace)
    · exact .inl hi
  · intro r hr
    rcases hq.isIdentity with href | ⟨hnone, -⟩
    · exact ⟨q.pointer, hvisited ▸ List.mem_cons_self, Option.some.inj (hr.symm.trans href)⟩
    · rw [hr] at hnone
      cases hnone
  · intro q' declared' hq' hr m hm
    obtain ⟨rfl, rfl⟩ := hq.det hq'
    rw [hmore hr]
    exact List.mem_append_right _ (List.mem_append_left _ hm)

/-- What is below a place whose identity is remembered has been passed or is still to be visited. -/
theorem Swept.below_subset (h : s.Swept todo work passed f) (hone : s.OneNode)
    (halike : s.RejectsAlike) (hp : s.Meets p) (hq : s.StandsFor p q declared)
    (hv : q.pointer ∈ f.visited) (hr : ¬ s.Rejects q declared) : below q ⊆ passed ++ work := by
  obtain ⟨p₀, hp₀, hi⟩ := h.identified _ hv
  cases hi with
  | @place q₀ declared₀ hq₀ hpointer hplace =>
    obtain rfl : q = q₀ := hone.eq hp hq (h.met p₀ hp₀) hq₀ hplace hpointer.symm
    refine h.closed p₀ hp₀ q declared₀ hq₀ fun hr₀ => hr ?_
    exact halike p₀ p q declared₀ declared (h.met p₀ hp₀) hq₀ hp hq hr₀
  | dead href htarget hmap => exact absurd rfl (hone.dead hp hq (h.met p₀ hp₀) href htarget hmap)

/-- Every visit passes its position. -/
theorem Swept.of_visits (h : s.Swept todo (p :: rest) passed f) (hone : s.OneNode)
    (halike : s.RejectsAlike) (hp : s.Meets p) (hv : s.Visits f p more f') :
    s.Swept todo (more ++ rest) (p :: passed) f' := by
  cases hv with
  | notMap hmap =>
    refine h.pass hp (List.Subset.refl _) (fun i hi => .inl hi) ?_ ?_
    · intro r hr
      rw [Value.isMap_of_get? hr] at hmap
      cases hmap
    · intro q declared hq
      rw [hq.source_isMap] at hmap
      cases hmap
  | @again i hi hv =>
    refine h.pass hp (List.Subset.refl _) (fun i hi => .inl hi) ?_ ?_
    · intro r hr
      rcases hi with href | ⟨hnone, -⟩
      · exact ⟨i, hv, Option.some.inj (hr.symm.trans href)⟩
      · rw [hr] at hnone
        cases hnone
    · intro q declared hq hr m hm
      have hv' : q.pointer ∈ f.visited := hq.pointer_eq hi ▸ hv
      exact mem_next (h.below_subset hone halike hp hq hv' hr hm) []
  | @dead ref v href hv htarget hmap =>
    refine h.pass hp (List.subset_cons_self _ _) ?_ ?_ ?_
    · intro i hi
      rcases List.mem_cons.1 hi with rfl | hi
      · exact .inr (.dead href htarget hmap)
      · exact .inl hi
    · intro r hr
      exact ⟨ref, List.mem_cons_self, Option.some.inj (hr.symm.trans href)⟩
    · intro q declared hq
      have hne := hone.dead hp hq hp href htarget hmap
      exact absurd (hq.pointer_eq (.inl href)) hne
  | @unplaced q declared hq hplace =>
    refine h.pass hp (List.Subset.refl _) (fun i hi => .inl hi) ?_ ?_
    · intro r hr
      cases hq with
      | node hmap href =>
        rw [hr] at href
        cases href
      | @reference ref target href htarget hmap =>
        have hempty : ref = "" := hplace
        exact absurd (hempty ▸ htarget) (resolve_empty _ _)
    · intro q' declared' hq' hr m hm
      obtain ⟨rfl, rfl⟩ := hq.det hq'
      exact List.mem_append_right _ (List.mem_append_left _ hm)
  | unnamed hq hplace hv hname => exact h.pass_place hp hq hplace rfl fun _ => rfl
  | rejected hq hv hr ha =>
    exact h.pass_place hp hq hr.placed rfl fun hnot => absurd ⟨_, hr, ha⟩ hnot
  | recorded hq hv hr ha => exact h.pass_place hp hq hr.placed rfl fun _ => rfl

/-! ## Endpoints -/

/-- Nothing has been passed before a discovery. -/
theorem Swept.init : s.Swept s.api.endpoints [] [] ⟨[], OrderedMap.empty, OrderedMap.empty⟩ where
  met := List.forall_mem_nil _
  roots := fun _ he _ => .inl he
  identified := fun _ hi => (List.not_mem_nil hi).elim
  references := fun _ hp => (List.not_mem_nil hp).elim
  closed := fun _ hp => (List.not_mem_nil hp).elim

/-- The schemas of an included endpoint are to be visited next. -/
theorem Swept.enter {e : Endpoint} (h : s.Swept (e :: todo) [] passed f) :
    s.Swept todo e.schemaPositions passed f where
  met := h.met
  roots := by
    intro e' he' hincluded
    rcases h.roots e' he' hincluded with he | hroots
    · rcases List.mem_cons.1 he with rfl | he
      · refine .inr fun p hp => ?_
        exact List.mem_append_right _ (Endpoint.mem_schemaPositions_iff.2 hp)
      · exact .inl he
    · refine .inr fun p hp => List.mem_append_left _ ?_
      rw [← List.append_nil passed]
      exact hroots p hp
  identified := h.identified
  references := h.references
  closed := by
    intro p hp q declared hq hr m hm
    refine List.mem_append_left _ ?_
    rw [← List.append_nil passed]
    exact h.closed p hp q declared hq hr hm

/-- An endpoint that is not included has nothing to be visited. -/
theorem Swept.leave {e : Endpoint} (h : s.Swept (e :: todo) [] passed f)
    (hexcluded : s.includes e = .ok false) : s.Swept todo [] passed f where
  met := h.met
  roots := by
    intro e' he' hincluded
    refine (h.roots e' he' hincluded).imp_left fun he => ?_
    rcases List.mem_cons.1 he with rfl | he
    · rw [hexcluded] at hincluded
      cases hincluded
    · exact he
  identified := h.identified
  references := h.references
  closed := h.closed

/-- When nothing is left, every position that is met has been passed. -/
theorem Swept.mem_passed (h : s.Swept [] [] passed f) (hp : s.Meets p) : p ∈ passed := by
  induction hp with
  | root he hincluded hp =>
    have hroots := (h.roots _ he hincluded).resolve_left List.not_mem_nil _ hp
    rwa [List.append_nil] at hroots
  | @chain p q declared hp hq hr href ih =>
    have hclosed := h.closed p ih q declared hq hr
    rw [List.append_nil, below, if_pos href] at hclosed
    exact hclosed (List.mem_singleton_self q)
  | @part p q m declared hp hq hr href hm ih =>
    have hclosed := h.closed p ih q declared hq hr
    rw [List.append_nil, below, href, if_neg Bool.false_ne_true] at hclosed
    exact hclosed (Position.mem_children_iff.2 hm)

/-- A discovery that starts from nothing passes all that is met. -/
theorem swept_of_discover (hone : s.OneNode) (halike : s.RejectsAlike)
    (h : s.discover OrderedMap.empty OrderedMap.empty = .ok f) :
    ∃ passed, s.Swept [] [] passed f := by
  refine discover_induction (P := fun todo work f => ∃ passed, s.Swept todo work passed f)
    ?_ ?_ ?_ ⟨[], Swept.init⟩ h
  · rintro todo p rest f more f' hp ⟨passed, hswept⟩ hv
    exact ⟨p :: passed, hswept.of_visits hone halike hp hv⟩
  · rintro e todo f ⟨passed, hswept⟩ -
    exact ⟨passed, hswept.enter⟩
  · rintro e todo f ⟨passed, hswept⟩ hexcluded
    exact ⟨passed, hswept.leave hexcluded⟩

end Setting

end ClientPlan
