import ClientPlan.Plan.State
import ClientPlan.Proofs.Document.TextKeys
import ClientPlan.Proofs.Outcome

/-!
# What a visit does

A discovery visits one position after another.  `Setting.Visits` says, case by case, all that a
visit can do when it succeeds (`visits_of_visit`).  A property of what remains to be visited and
what has been found, kept by every visit, holds at the end of a discovery (`discoverAll_induction`);
so no later proof opens the visit or the recursion.
-/

set_option autoImplicit false

namespace ClientPlan

/-! ## Registrations -/

/-- An identity that is recorded under a final name. -/
structure Registration where
  /-- Where the schema stands. -/
  identity : String
  /-- The name that it gets. -/
  finalName : String
  /-- The node as it is kept. -/
  node : Value

namespace Registration

/-- The schema that has the registered identity alone. -/
def candidate (r : Registration) : Schema :=
  { finalName := r.finalName, identities := [r.identity], node := r.node }

/-- `r` is what a place and its declared name give. -/
structure Describes (r : Registration) (q : Position) (declared : Option String) : Prop where
  /-- The pointer is the identity. -/
  identity : r.identity = q.pointer
  /-- The declared name in type case is the final name. -/
  finalName : r.finalName = Naming.typeName (declared.getD "")
  /-- The place has an identity. -/
  placed : q.pointer ≠ ""
  /-- The name has a letter or a digit. -/
  named : r.finalName ≠ ""
  /-- A field of a schema holds the node. -/
  node : mappingField "schema" q.node = .ok r.node

theorem Describes.eq {r r' : Registration} {q : Position} {declared : Option String}
    (h : r.Describes q declared) (h' : r'.Describes q declared) : r = r' := by
  cases r
  cases r'
  have hi := h.identity.trans h'.identity.symm
  have hf := h.finalName.trans h'.finalName.symm
  have hn := Except.ok.inj (h.node.symm.trans h'.node)
  dsimp only at hi hf hn
  rw [hi, hf, hn]

end Registration

namespace Setting

variable {s : Setting} {f f' : Found} {p q : Position} {more : List Position}
  {declared : Option String}

/-- What is known once `r` has been recorded. -/
def record (s : Setting) (f : Found) (r : Registration) : Found :=
  f.add r.identity r.candidate (s.policy.schemaDirectives r.candidate)

/-- Whether the policy collects what is registered. -/
def admits (s : Setting) (r : Registration) : Except Failure Bool :=
  s.policy.includesSchema s.config r.candidate

/-! ## Places -/

/-- The position `p` stands for the schema `q`, which is declared under a name: a node that is no
reference stands for itself, a reference for the mapping that it names. -/
inductive StandsFor (s : Setting) : Position → Position → Option String → Prop where
  /-- A node stands for itself. -/
  | node {p : Position} (hmap : p.node.isMap = true) (href : p.node.get? referenceKey = none) :
      StandsFor s p p (s.policy.schemaName p)
  /-- A reference stands for its target, whose identity is the reference. -/
  | reference {p : Position} {ref : String} {target : Value}
      (href : p.node.get? referenceKey = some (.str ref))
      (htarget : Pointer.resolve s.api.document ref = .ok target) (hmap : target.isMap = true) :
      StandsFor s p ⟨target, ref⟩ (s.declaredName ⟨target, ref⟩)

end Setting

/-- The identity of what stands at a position: the reference, or else the pointer. -/
def Position.IsIdentity (p : Position) (i : String) : Prop :=
  p.node.get? referenceKey = some (.str i) ∨ p.node.get? referenceKey = none ∧ i = p.pointer

namespace Setting

variable {s : Setting} {f f' : Found} {p q : Position} {more : List Position}
  {declared : Option String}

theorem StandsFor.pointer_eq {i : String} (h : s.StandsFor p q declared) (hi : p.IsIdentity i) :
    q.pointer = i := by
  cases h with
  | node hmap href =>
    rcases hi with hi | ⟨-, hi⟩
    · rw [href] at hi
      cases hi
    · exact hi.symm
  | reference href htarget hmap =>
    rcases hi with hi | ⟨hi, -⟩
    · rw [href] at hi
      cases hi
      rfl
    · rw [href] at hi
      cases hi

theorem StandsFor.isIdentity (h : s.StandsFor p q declared) : p.IsIdentity q.pointer := by
  cases h with
  | node hmap href => exact .inr ⟨href, rfl⟩
  | reference href htarget hmap => exact .inl href

/-- What a position stands for is a mapping. -/
theorem StandsFor.isMap (h : s.StandsFor p q declared) : q.node.isMap = true := by
  cases h with
  | node hmap _ => exact hmap
  | reference _ _ hmap => exact hmap

/-- Only mappings stand for something. -/
theorem StandsFor.source_isMap (h : s.StandsFor p q declared) : p.node.isMap = true := by
  cases h with
  | node hmap href => exact hmap
  | reference href htarget hmap => exact Value.isMap_of_get? href

/-- A position stands for one place, under one name. -/
theorem StandsFor.det {q' : Position} {declared' : Option String} (h : s.StandsFor p q declared)
    (h' : s.StandsFor p q' declared') : q = q' ∧ declared = declared' := by
  cases h with
  | node hmap href =>
    cases h' with
    | node hmap' href' => exact ⟨rfl, rfl⟩
    | reference href' htarget' hmap' =>
      rw [href] at href'
      cases href'
  | reference href htarget hmap =>
    cases h' with
    | node hmap' href' =>
      rw [href] at href'
      cases href'
    | reference href' htarget' hmap' =>
      rw [href] at href'
      cases href'
      rw [htarget] at htarget'
      cases htarget'
      exact ⟨rfl, rfl⟩

/-- No place is reached through the empty reference. -/
theorem resolve_empty (v target : Value) : Pointer.resolve v "" ≠ .ok target := by
  intro h
  cases h

/-! ## Visits -/

/-- All that a visit can do: the positions that are visited next, and what is then found. -/
inductive Visits (s : Setting) (f : Found) (p : Position) : List Position → Found → Prop where
  /-- Only mappings are schemas. -/
  | notMap (hmap : p.node.isMap = false) : Visits s f p [] f
  /-- What has been visited is not visited again. -/
  | again {i : String} (hi : p.IsIdentity i) (hv : i ∈ f.visited) : Visits s f p [] f
  /-- A reference may name something that is no schema. -/
  | dead {ref : String} {v : Value} (href : p.node.get? referenceKey = some (.str ref))
      (hv : ref ∉ f.visited) (htarget : Pointer.resolve s.api.document ref = .ok v)
      (hmap : v.isMap = false) : Visits s f p [] (f.visit ref)
  /-- A place without an identity is passed through. -/
  | unplaced {q : Position} {declared : Option String} (hq : s.StandsFor p q declared)
      (hplace : q.pointer = "") : Visits s f p (below q) f
  /-- A place without a name is passed through. -/
  | unnamed {q : Position} {declared : Option String} (hq : s.StandsFor p q declared)
      (hplace : q.pointer ≠ "") (hv : q.pointer ∉ f.visited)
      (hname : Naming.typeName (declared.getD "") = "") :
      Visits s f p (below q) (f.visit q.pointer)
  /-- A place that the policy leaves out ends the search there. -/
  | rejected {q : Position} {declared : Option String} {r : Registration}
      (hq : s.StandsFor p q declared) (hv : q.pointer ∉ f.visited) (hr : r.Describes q declared)
      (hadmits : s.admits r = .ok false) : Visits s f p [] (f.visit q.pointer)
  /-- Any other place is recorded. -/
  | recorded {q : Position} {declared : Option String} {r : Registration}
      (hq : s.StandsFor p q declared) (hv : q.pointer ∉ f.visited) (hr : r.Describes q declared)
      (hadmits : s.admits r = .ok true) :
      Visits s f p (below q) (s.record (f.visit q.pointer) r)

/-- What registering a place comes to. -/
theorem register_eq_ok {found? : Option Found} (h : s.register f q declared = .ok found?) :
    (q.pointer = "" ∨ Naming.typeName (declared.getD "") = "") ∧ found? = some f ∨
      ∃ r : Registration, r.Describes q declared ∧
        (s.admits r = .ok true ∧ found? = some (s.record f r) ∨
          s.admits r = .ok false ∧ found? = none) := by
  unfold register at h
  dsimp only at h
  split at h
  · next hempty =>
    cases h
    exact .inl ⟨by simpa using hempty, rfl⟩
  · next hempty =>
    simp only [Bool.or_eq_true, beq_iff_eq, not_or] at hempty
    obtain ⟨node, hnode, h⟩ := bind_eq_ok.1 h
    obtain ⟨included, hincluded, h⟩ := bind_eq_ok.1 h
    let r : Registration := ⟨q.pointer, Naming.typeName (declared.getD ""), node⟩
    have hr : r.Describes q declared :=
      ⟨rfl, rfl, hempty.1, hempty.2, Checked.required_eq_ok.1 hnode⟩
    refine .inr ⟨r, hr, ?_⟩
    cases included with
    | true => exact .inl ⟨hincluded, (pure_eq_ok.1 h).symm⟩
    | false => exact .inr ⟨hincluded, (pure_eq_ok.1 h).symm⟩

/-- What entering a place comes to. -/
theorem enter_eq_ok (h : s.enter f q declared = .ok (more, f')) :
    (q.pointer = "" ∨ Naming.typeName (declared.getD "") = "") ∧ more = below q ∧ f' = f ∨
      ∃ r : Registration, r.Describes q declared ∧
        (s.admits r = .ok true ∧ more = below q ∧ f' = s.record f r ∨
          s.admits r = .ok false ∧ more = [] ∧ f' = f) := by
  rcases hregister : s.register f q declared with e | (- | g)
  · rw [enter_of_error hregister] at h
    cases h
  · rw [enter_of_none hregister] at h
    cases h
    rcases register_eq_ok hregister with ⟨-, hg⟩ | ⟨r, hr, ⟨-, hg⟩ | ⟨ha, -⟩⟩
    · cases hg
    · cases hg
    · exact .inr ⟨r, hr, .inr ⟨ha, rfl, rfl⟩⟩
  · rw [enter_of_some hregister] at h
    split at h
    · cases h
      rcases register_eq_ok hregister with ⟨hempty, hg⟩ | ⟨r, hr, ⟨ha, hg⟩ | ⟨-, hg⟩⟩
      · exact .inl ⟨hempty, rfl, Option.some.inj hg⟩
      · exact .inr ⟨r, hr, .inl ⟨ha, rfl, Option.some.inj hg⟩⟩
      · cases hg
    · cases h

/-- Entering a place that has an identity is a visit of it. -/
theorem visits_of_enter (hq : s.StandsFor p q declared) (hplace : q.pointer ≠ "")
    (hv : q.pointer ∉ f.visited) (h : s.enter (f.visit q.pointer) q declared = .ok (more, f')) :
    s.Visits f p more f' := by
  rcases enter_eq_ok h with ⟨hempty, rfl, rfl⟩ | ⟨r, hr, ⟨ha, rfl, rfl⟩ | ⟨ha, rfl, rfl⟩⟩
  · exact .unnamed hq hplace hv (hempty.resolve_left hplace)
  · exact .recorded hq hv hr ha
  · exact .rejected hq hv hr ha

/-- A visit that succeeds is one of the cases. -/
theorem visits_of_visit (h : s.visit f p = .ok (more, f')) : s.Visits f p more f' := by
  have hvisit := comesTo_visit s f p
  generalize s.visit f p = visited at h hvisit
  cases hvisit with
  | failure e => cases h
  | notMap hmap =>
    cases h
    exact .notMap hmap
  | unplaced hmap href hplace =>
    rcases enter_eq_ok h with ⟨-, rfl, rfl⟩ | ⟨r, hr, -⟩
    · exact .unplaced (.node hmap href) hplace
    · exact absurd hplace hr.placed
  | again hmap href hv =>
    cases h
    exact .again (.inr ⟨href, rfl⟩) hv
  | node hmap href hplace hv => exact visits_of_enter (.node hmap href) hplace hv h
  | followed href hv =>
    cases h
    exact .again (.inl href) hv
  | dead href hv htarget hmap =>
    cases h
    exact .dead href hv htarget hmap
  | @reference ref target href hv htarget hmap =>
    have hplace : ref ≠ "" := fun e => resolve_empty _ _ (e ▸ htarget)
    exact visits_of_enter (.reference href htarget hmap) hplace hv h

/-! ## Visits that are held up -/

/-- What is held up at an unwritable name in entering a place is among the parts of the place. -/
theorem mem_children_of_enter {before : List Position}
    (h : s.enter f q declared = .error (.unwritable before f')) {m : Position} (hm : m ∈ before) :
    q.node.has referenceKey = false ∧ m ∈ q.children := by
  rcases hregister : s.register f q declared with e | (- | g)
  · rw [enter_of_error hregister] at h
    cases h
  · rw [enter_of_none hregister] at h
    cases h
  · rw [enter_of_some hregister] at h
    split at h
    · cases h
    · next hbefore =>
      cases h
      obtain ⟨hplain, hsub⟩ := sublist_of_beforeUnwritable? hbefore
      exact ⟨hplain, hsub.subset hm⟩

/-- What a visit leaves that is held up at an unwritable name are parts of a place. -/
theorem exists_place_of_visit {before : List Position}
    (h : s.visit f p = .error (.unwritable before f')) {m : Position} (hm : m ∈ before) :
    ∃ q declared, s.StandsFor p q declared ∧ q.node.has referenceKey = false ∧
      m ∈ q.children := by
  have hvisit := comesTo_visit s f p
  generalize s.visit f p = visited at h hvisit
  cases hvisit with
  | failure | notMap | again | followed | dead => cases h
  | unplaced hmap href | node hmap href =>
    exact ⟨p, _, .node hmap href, mem_children_of_enter h hm⟩
  | reference href hv htarget hmap =>
    exact ⟨_, _, .reference href htarget hmap, mem_children_of_enter h hm⟩

/-! ## Discoveries -/

/-- A property of the work left and of what is found that every visit keeps holds when no work is
left. -/
theorem discoverFrom_induction {P : List Position → Found → Prop}
    (hvisit : ∀ {p rest f more f'}, P (p :: rest) f → s.Visits f p more f' → P (more ++ rest) f')
    {work : List Position} (hstart : P work f) (h : s.discoverFrom work f = .ok f') : P [] f' := by
  induction work, f using discoverFrom.induct s with
  | case1 f =>
    rw [discoverFrom] at h
    cases h
    exact hstart
  | case2 f p rest more g hg ih =>
    rw [discoverFrom, hg] at h
    exact ih (hvisit hstart (visits_of_visit hg)) h
  | case3 f p rest e he =>
    rw [discoverFrom, he] at h
    cases h
  | case4 f p rest before g hg ih =>
    rw [discoverFrom, hg] at h
    obtain ⟨-, -, h⟩ := bind_eq_ok.1 h
    cases h

/-- Discoveries in two settings are the same, if their visits are the same at positions with a
property that is passed on to what remains to be visited. -/
theorem discoverFrom_congr {s' : Setting} {good : Position → Prop}
    (hvisit : ∀ f p, good p → s'.visit f p = s.visit f p)
    (hmore : ∀ {f p more f'}, good p → s.Visits f p more f' → ∀ m ∈ more, good m)
    (hbefore : ∀ {f p before f'}, good p → s.visit f p = .error (.unwritable before f') →
      ∀ m ∈ before, good m)
    {work : List Position} (hwork : ∀ p ∈ work, good p) (f : Found) :
    s'.discoverFrom work f = s.discoverFrom work f := by
  fun_induction s.discoverFrom work f with
  | case1 => rw [discoverFrom]
  | case2 f p rest more f' h ih =>
    have hp := hwork p List.mem_cons_self
    rw [discoverFrom, (hvisit f p hp).trans h]
    refine ih fun m hm => ?_
    rcases List.mem_append.1 hm with hm | hm
    · exact hmore hp (visits_of_visit h) m hm
    · exact hwork m (List.mem_cons_of_mem _ hm)
  | case3 f p rest e h =>
    rw [discoverFrom, (hvisit f p (hwork p List.mem_cons_self)).trans h]
  | case4 f p rest before f' h ih =>
    have hp := hwork p List.mem_cons_self
    rw [discoverFrom, (hvisit f p hp).trans h]
    exact congrArg (fun found => discard found >>= fun _ => throw _) (ih (hbefore hp h))

/-- A property of the endpoints left, the work left and what is found holds at the end of a
discovery if it is kept by every visit, by starting with an included endpoint and by passing over
another. -/
theorem discoverAll_induction {P : List Endpoint → List Position → Found → Prop}
    (hvisit : ∀ {todo p rest f more f'}, P todo (p :: rest) f → s.Visits f p more f' →
      P todo (more ++ rest) f')
    (hstart : ∀ {e todo f}, P (e :: todo) [] f → s.includes e = .ok true →
      P todo e.schemaPositions f)
    (hpass : ∀ {e todo f}, P (e :: todo) [] f → s.includes e = .ok false → P todo [] f)
    {todo : List Endpoint} (hP : P todo [] f) (h : s.discoverAll todo f = .ok f') : P [] [] f' := by
  induction todo generalizing f with
  | nil =>
    cases h
    exact hP
  | cons e todo ih =>
    rw [discoverAll] at h
    obtain ⟨included, hincluded, h⟩ := bind_eq_ok.1 h
    cases included with
    | true =>
      obtain ⟨g, hg, h⟩ := bind_eq_ok.1 h
      exact ih (discoverFrom_induction hvisit (hstart hP hincluded) hg) h
    | false => exact ih (hpass hP hincluded) h

end Setting

end ClientPlan
