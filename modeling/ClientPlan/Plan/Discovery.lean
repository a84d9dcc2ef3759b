import ClientPlan.Plan.Setting
import ClientPlan.Schema.Children

/-!
# Discovering schemas

The schemas of a plan are those that can be reached from the request bodies and responses of the
included endpoints.  A schema is identified by where it stands, not by what it looks like: by the
reference that leads to it, or by its pointer.  The declared name of an identity, in type case, is
its final name, and identities with one final name are one schema.  The first of them supplies the
node.

`discoverFrom` works through a list of positions.  Each position is replaced by the parts below it,
so parts come before what follows them.  It ends because a position either follows a reference for
the first time or is replaced by parts that are together smaller.  A property whose name cannot be
written has no pointer: a discovery that comes to one fails, once the properties before it have been
visited.
-/

set_option autoImplicit false

namespace ClientPlan

/-- What has been discovered so far. -/
structure Found where
  /-- The references and pointers that have been visited. -/
  visited : List String
  /-- The schemas by their final names. -/
  schemas : SchemaMap
  /-- The final names by identity. -/
  names : SchemaNames

namespace Found

/-- A reference or pointer counts as visited. -/
def visit (f : Found) (identity : String) : Found := { f with visited := identity :: f.visited }

/-- A schema with one more identity and what that identity needs. -/
def addIdentity (s : Schema) (identity : String) (directives : List String) : Schema :=
  { s with
    identities := s.identities ++ [identity]
    directives := (s.directives ++ directives).eraseDups }

/-- What is known once `candidate`, which has a single identity, is found with its directives. -/
def add (f : Found) (identity : String) (candidate : Schema) (directives : List String) : Found :=
  let directives := directives.eraseDups
  let schemas := match f.schemas.get? candidate.finalName with
    | none => f.schemas.insert candidate.finalName { candidate with directives }
    | some s =>
      if identity ∈ s.identities then f.schemas
      else f.schemas.insert candidate.finalName (addIdentity s identity directives)
  { f with schemas, names := f.names.insert identity candidate.finalName }

end Found

/-- What all pointers to components start with. -/
def componentStart : String := "#/components/schemas/"

/-- The name of the component that a reference points to. -/
def componentName? (ref : String) : Option String :=
  if componentStart.toList.isPrefixOf ref.toList then
    some (String.ofList (Pointer.unescapeChars (ref.toList.drop componentStart.toList.length)))
  else none

namespace Setting

/-- The declared name of what a reference leads to. -/
def declaredName (s : Setting) (target : Position) : Option String :=
  match componentName? target.pointer with
  | some name => some name
  | none => s.policy.schemaName target

/-- Records an identity under its final name.  The answer is `none` for a schema that the policy
leaves out; an identity without a name is passed over. -/
def register (s : Setting) (found : Found) (p : Position) (declared : Option String) :
    Except Failure (Option Found) :=
  let finalName := Naming.typeName (declared.getD "")
  if p.pointer == "" || finalName == "" then .ok (some found)
  else do
    let node ← (mappingField "schema" p.node).required
    let candidate : Schema := { finalName, identities := [p.pointer], node }
    if ← s.policy.includesSchema s.config candidate then
      return some (found.add p.pointer candidate (s.policy.schemaDirectives candidate))
    else return none

/-- What is to be visited below a position: where a reference leads to, or the parts. -/
def below (p : Position) : List Position :=
  if p.node.has referenceKey then [p] else p.children

/-- The properties before the first one whose name cannot be written, if there is one among the parts
of a position. -/
def beforeUnwritable? (p : Position) : Option (List Position) :=
  match p.node.get? "properties" with
  | some (.map entries) =>
    if p.node.has referenceKey || entries.all fun e => e.1.isWritable then none
    else some ((p.entriesAt "properties").take (entries.takeWhile fun e => e.1.isWritable).length)
  | _ => none

/-- Why a visit is not followed by one of the next position. -/
inductive Halt where
  /-- It fails. -/
  | failure (failure : Failure)
  /-- The name of a property cannot be written: only the properties before it are still visited. -/
  | unwritable (before : List Position) (found : Found)

/-- Registers a position; the positions to be visited below it come with what is found. -/
def enter (s : Setting) (found : Found) (p : Position) (declared : Option String) :
    Except Halt (List Position × Found) := do
  match ← (s.register found p declared).mapError Halt.failure with
  | some found =>
    match beforeUnwritable? p with
    | none => return (below p, found)
    | some before => throw (.unwritable before found)
  | none => return ([], found)

/-- Visits a reference that has not been visited. -/
def visitReference (s : Setting) (found : Found) (ref : String) :
    Except Halt (List Position × Found) :=
  match Pointer.resolve s.api.document ref with
  | .error e => .error (.failure (.document e))
  | .ok target =>
    if target.isMap then s.enter (found.visit ref) ⟨target, ref⟩ (s.declaredName ⟨target, ref⟩)
    else .ok ([], found.visit ref)

/-- Visits a node that is no reference. -/
def visitNode (s : Setting) (found : Found) (p : Position) :
    Except Halt (List Position × Found) :=
  if p.pointer == "" then s.enter found p (s.policy.schemaName p)
  else if p.pointer ∈ found.visited then .ok ([], found)
  else s.enter (found.visit p.pointer) p (s.policy.schemaName p)

/-- Visits a position; the positions to be visited next come with what is found. -/
def visit (s : Setting) (found : Found) (p : Position) : Except Halt (List Position × Found) :=
  if !p.node.isMap then .ok ([], found)
  else
    match p.node.get? referenceKey with
    | none => s.visitNode found p
    | some r => do
      let ref ← r.reference.mapError Halt.failure
      if ref ∈ found.visited then return ([], found) else s.visitReference found ref

/-! ## Progress -/

/-- A visit, or what is made of it, leaves some positions to be visited next. -/
def Leaves (visited : Except Halt (List Position × Found)) (more : List Position) (f : Found) :
    Prop :=
  visited = .ok (more, f) ∨ visited = .error (.unwritable more f)

theorem visited_of_register {s : Setting} {f f' : Found} {p : Position} {declared : Option String}
    (h : s.register f p declared = .ok (some f')) : f'.visited = f.visited := by
  unfold register at h
  dsimp only at h
  split at h
  · cases h; rfl
  · cases hn : Checked.required (mappingField "schema" p.node) with
    | error e => rw [hn] at h; cases h
    | ok node =>
      rw [hn] at h
      simp only [bind, Except.bind] at h
      split at h
      · cases h
      · split at h
        · cases h; rfl
        · cases h

/-- The properties before one whose name cannot be written are parts of a schema that is no
reference. -/
theorem sublist_of_beforeUnwritable? {p : Position} {before : List Position}
    (h : beforeUnwritable? p = some before) :
    p.node.has referenceKey = false ∧ before.Sublist p.children := by
  unfold beforeUnwritable? at h
  split at h
  · split at h
    · cases h
    · next hplain =>
      cases h
      simp only [Bool.or_eq_true, not_or, Bool.not_eq_true] at hplain
      exact ⟨hplain.1, (List.take_sublist _ _).trans (List.sublist_append_left _ _)⟩
  · cases h

section

variable {s : Setting} {f f' : Found} {p : Position} {declared : Option String}

theorem enter_of_error {e : Failure} (h : s.register f p declared = .error e) :
    s.enter f p declared = .error (.failure e) := by
  rw [enter, h]
  rfl

theorem enter_of_none (h : s.register f p declared = .ok none) :
    s.enter f p declared = .ok ([], f) := by
  rw [enter, h]
  rfl

theorem enter_of_some (h : s.register f p declared = .ok (some f')) :
    s.enter f p declared = match beforeUnwritable? p with
      | none => .ok (below p, f')
      | some before => .error (.unwritable before f') := by
  rw [enter, h]
  rfl

/-- A visit of a reference goes to where it leads, unless that has been visited. -/
theorem visit_of_reference {r : Value} {ref : String} (hmap : ¬(!p.node.isMap) = true)
    (hr : p.node.get? referenceKey = some r) (href : r.reference = .ok ref) :
    s.visit f p = if ref ∈ f.visited then .ok ([], f) else s.visitReference f ref := by
  rw [visit, if_neg hmap, hr]
  dsimp only
  rw [href]
  rfl

theorem visit_of_reference_error {r : Value} {e : Failure} (hmap : ¬(!p.node.isMap) = true)
    (hr : p.node.get? referenceKey = some r) (href : r.reference = .error e) :
    s.visit f p = .error (.failure e) := by
  rw [visit, if_neg hmap, hr]
  dsimp only
  rw [href]
  rfl

/-- What a visit of a position comes to. -/
inductive ComesTo (s : Setting) (f : Found) (p : Position) :
    Except Halt (List Position × Found) → Prop where
  /-- A reference is no text, or leads nowhere. -/
  | failure (e : Failure) : ComesTo s f p (.error (.failure e))
  /-- What is no mapping is no schema. -/
  | notMap (hmap : p.node.isMap = false) : ComesTo s f p (.ok ([], f))
  /-- A node without a pointer is entered each time. -/
  | unplaced (hmap : p.node.isMap = true) (href : p.node.get? referenceKey = none)
      (hplace : p.pointer = "") : ComesTo s f p (s.enter f p (s.policy.schemaName p))
  /-- A node is not entered again. -/
  | again (hmap : p.node.isMap = true) (href : p.node.get? referenceKey = none)
      (hv : p.pointer ∈ f.visited) : ComesTo s f p (.ok ([], f))
  /-- A node is entered for the first time. -/
  | node (hmap : p.node.isMap = true) (href : p.node.get? referenceKey = none)
      (hplace : p.pointer ≠ "") (hv : p.pointer ∉ f.visited) :
      ComesTo s f p (s.enter (f.visit p.pointer) p (s.policy.schemaName p))
  /-- A reference is not followed again. -/
  | followed {ref : String} (href : p.node.get? referenceKey = some (.str ref))
      (hv : ref ∈ f.visited) : ComesTo s f p (.ok ([], f))
  /-- A reference leads to no schema. -/
  | dead {ref : String} {target : Value} (href : p.node.get? referenceKey = some (.str ref))
      (hv : ref ∉ f.visited) (htarget : Pointer.resolve s.api.document ref = .ok target)
      (hmap : target.isMap = false) : ComesTo s f p (.ok ([], f.visit ref))
  /-- Where a reference leads to is entered. -/
  | reference {ref : String} {target : Value}
      (href : p.node.get? referenceKey = some (.str ref)) (hv : ref ∉ f.visited)
      (htarget : Pointer.resolve s.api.document ref = .ok target) (hmap : target.isMap = true) :
      ComesTo s f p (s.enter (f.visit ref) ⟨target, ref⟩ (s.declaredName ⟨target, ref⟩))

theorem comesTo_visit (s : Setting) (f : Found) (p : Position) :
    s.ComesTo f p (s.visit f p) := by
  by_cases hmap : (!p.node.isMap) = true
  · rw [visit, if_pos hmap]
    exact .notMap (by simpa using hmap)
  have hmap' : p.node.isMap = true := by simpa using hmap
  cases href : p.node.get? referenceKey with
  | none =>
    rw [visit, if_neg hmap, href]
    dsimp only
    unfold visitNode
    split
    · next hplace => exact .unplaced hmap' href (by simpa using hplace)
    · next hplace =>
      split
      · next hv => exact .again hmap' href hv
      · next hv => exact .node hmap' href (by simpa using hplace) hv
  | some r =>
    cases hr : r.reference with
    | error e =>
      rw [visit_of_reference_error hmap href hr]
      exact .failure e
    | ok ref =>
      rw [visit_of_reference hmap href hr]
      rw [Value.eq_str_of_reference hr] at href
      split
      · next hv => exact .followed href hv
      · next hv =>
        unfold visitReference
        split
        · next e _ => exact .failure (.document e)
        · next target htarget =>
          split
          · next htargetMap => exact .reference href hv htarget htargetMap
          · next htargetMap => exact .dead href hv htarget (by simpa using htargetMap)

end

theorem eq_of_leaves_ok {f f' : Found} {more more' : List Position}
    (h : Leaves (.ok (more', f')) more f) : more = more' ∧ f = f' := by
  rcases h with h | h <;> cases h
  exact ⟨rfl, rfl⟩

theorem not_leaves_failure {e : Failure} {f : Found} {more : List Position} :
    ¬ Leaves (.error (.failure e)) more f := by
  rintro (h | h) <;> cases h

/-- What entering a position leaves are parts of it, and nothing more is visited. -/
theorem visited_of_enter {s : Setting} {f f' : Found} {p : Position} {declared : Option String}
    {more : List Position} (h : Leaves (s.enter f p declared) more f') :
    f'.visited = f.visited ∧ more.Sublist (below p) := by
  rcases hr : s.register f p declared with e | (- | f'')
  · rw [enter_of_error hr] at h
    exact absurd h not_leaves_failure
  · rw [enter_of_none hr] at h
    obtain ⟨rfl, rfl⟩ := eq_of_leaves_ok h
    exact ⟨rfl, List.nil_sublist _⟩
  · rw [enter_of_some hr] at h
    split at h
    · obtain ⟨rfl, rfl⟩ := eq_of_leaves_ok h
      exact ⟨visited_of_register hr, List.Sublist.refl _⟩
    · next before hbefore =>
      rcases h with h | h <;> cases h
      obtain ⟨hplain, hsub⟩ := sublist_of_beforeUnwritable? hbefore
      refine ⟨visited_of_register hr, ?_⟩
      rw [below, hplain]
      exact hsub

theorem referencesOfAll_below_subset (p : Position) :
    Position.referencesOfAll (below p) ⊆ p.node.references := by
  unfold below
  split
  · simp [Position.referencesOfAll]
  · exact Position.referencesOfAll_children_subset p

/-- The references that can still be met. -/
def reachable (s : Setting) (work : List Position) : List String :=
  s.api.document.references ++ Position.referencesOfAll work

/-- The measure of a discovery: the references that have not been visited, then the size of the
positions. -/
abbrev measure (s : Setting) (work : List Position) (found : Found) : Nat × Nat :=
  (pending (s.reachable work) found.visited, Position.sizeOfAll work)

section

variable {s : Setting} {more rest rest' : List Position} {p : Position} {f f' : Found}

theorem reachable_append_subset (hrest : rest'.Sublist rest)
    (h : Position.referencesOfAll more ⊆ s.api.document.references ++ p.node.references) :
    s.reachable (more ++ rest') ⊆ s.reachable (p :: rest) := by
  intro x hx
  simp only [reachable, Position.referencesOfAll_append, List.mem_append] at hx
  simp only [reachable, Position.referencesOfAll, List.flatMap_cons, List.mem_append]
  rcases hx with hx | hx | hx
  · exact .inl hx
  · rcases List.mem_append.1 (h hx) with hx | hx
    · exact .inl hx
    · exact .inr (.inl hx)
  · exact .inr (.inr (Position.referencesOfAll_subset hrest hx))

theorem measure_lt_of_size (hrest : rest'.Sublist rest)
    (hr : Position.referencesOfAll more ⊆ s.api.document.references ++ p.node.references)
    (hv : f.visited ⊆ f'.visited) (hs : Position.sizeOfAll more < p.node.size) :
    Prod.Lex (· < ·) (· < ·) (s.measure (more ++ rest') f') (s.measure (p :: rest) f) := by
  rcases Nat.lt_or_eq_of_le (pending_le (reachable_append_subset hrest hr) hv) with hlt | heq
  · exact Prod.Lex.left _ _ hlt
  · rw [measure, measure, heq]
    refine Prod.Lex.right _ ?_
    have hle := Position.sizeOfAll_le hrest
    simp only [Position.sizeOfAll_append, Position.sizeOfAll_cons]
    omega

theorem measure_lt_of_reference {ref : String} (hrest : rest'.Sublist rest)
    (hr : Position.referencesOfAll more ⊆ s.api.document.references ++ p.node.references)
    (hp : ref ∈ p.node.references) (hn : ref ∉ f.visited) (hv : f'.visited = ref :: f.visited) :
    Prod.Lex (· < ·) (· < ·) (s.measure (more ++ rest') f') (s.measure (p :: rest) f) := by
  refine Prod.Lex.left _ _ (pending_cons_lt (reachable_append_subset hrest hr)
    (hv ▸ List.subset_cons_self _ _) ?_ hn (hv ▸ List.mem_cons_self))
  simp only [reachable, Position.referencesOfAll, List.flatMap_cons, List.mem_append]
  exact .inr (.inl hp)

/-- Every visit makes progress, with all of the remaining positions or some of them. -/
theorem measure_lt_of_leaves (hrest : rest'.Sublist rest) (h : Leaves (s.visit f p) more f') :
    Prod.Lex (· < ·) (· < ·) (s.measure (more ++ rest') f') (s.measure (p :: rest) f) := by
  have hnil : Position.referencesOfAll [] ⊆ s.api.document.references ++ p.node.references :=
    List.nil_subset _
  -- The parts of a place that is no reference are smaller, and so are some of them.
  have hplain (href : p.node.get? referenceKey = none) {m : List Position}
      (hm : m.Sublist (below p)) :
      Position.referencesOfAll m ⊆ s.api.document.references ++ p.node.references ∧
        Position.sizeOfAll m < p.node.size := by
    refine ⟨fun x hx => List.mem_append_right _ (referencesOfAll_below_subset p
      (Position.referencesOfAll_subset hm hx)), ?_⟩
    rw [below, show p.node.has referenceKey = false by simp [Value.has, href]] at hm
    exact Nat.lt_of_le_of_lt (Position.sizeOfAll_le hm) (Position.sizeOfAll_children_lt p)
  have hvisit := comesTo_visit s f p
  generalize s.visit f p = visited at h hvisit
  cases hvisit with
  | failure e => exact absurd h not_leaves_failure
  | notMap | again | followed =>
    obtain ⟨rfl, rfl⟩ := eq_of_leaves_ok h
    exact measure_lt_of_size hrest hnil (List.Subset.refl _) (Value.size_pos _)
  | unplaced hmap href hplace =>
    obtain ⟨hv, hm⟩ := visited_of_enter h
    exact measure_lt_of_size hrest (hplain href hm).1 (hv ▸ List.Subset.refl _) (hplain href hm).2
  | node hmap href hplace hfresh =>
    obtain ⟨hv, hm⟩ := visited_of_enter h
    exact measure_lt_of_size hrest (hplain href hm).1 (hv ▸ List.subset_cons_self _ _)
      (hplain href hm).2
  | dead href hfresh htarget hmap =>
    obtain ⟨rfl, rfl⟩ := eq_of_leaves_ok h
    exact measure_lt_of_reference hrest hnil (Value.mem_references_of_get? href) hfresh rfl
  | reference href hfresh htarget hmap =>
    obtain ⟨hv, hm⟩ := visited_of_enter h
    refine measure_lt_of_reference hrest (fun x hx => ?_) (Value.mem_references_of_get? href)
      hfresh hv
    exact List.mem_append_left _ (Pointer.references_resolve_subset htarget
      (referencesOfAll_below_subset _ (Position.referencesOfAll_subset hm hx)))

end

/-! ## Discovery -/

/-- Visits positions and all that is below them, in order. -/
def discoverFrom (s : Setting) (work : List Position) (found : Found) : Except Failure Found :=
  match work with
  | [] => .ok found
  | p :: rest =>
    match _h : s.visit found p with
    | .ok (more, found') => s.discoverFrom (more ++ rest) found'
    | .error (.failure e) => .error e
    | .error (.unwritable before found') => do
      discard (s.discoverFrom before found')
      throw (.malformed .badScalar)
termination_by s.measure work found
decreasing_by
  · exact measure_lt_of_leaves (List.Sublist.refl rest) (.inl _h)
  · have hlt := measure_lt_of_leaves (List.nil_sublist rest) (.inr _h)
    rwa [List.append_nil] at hlt

end Setting

/-- The schemas of an endpoint: those of the request body sorted by content type, then those of the
responses. -/
def Endpoint.schemaPositions (e : Endpoint) : List Position :=
  let body := match e.requestBody with
    | some b => b.content.entries.mergeSort fun x y => decide (x.1 ≤ y.1)
    | none => []
  let responses := e.responses.values.flatMap fun r =>
    match r.content with
    | some content => content.values
    | none => []
  (body.map Prod.snd ++ responses).map Media.position

/-- Discovers the schemas of the included ones among some endpoints, one endpoint after another. -/
def Setting.discoverAll (s : Setting) : List Endpoint → Found → Except Failure Found
  | [], found => .ok found
  | e :: r, found => do
    let found ← if ← s.includes e then s.discoverFrom e.schemaPositions found else pure found
    s.discoverAll r found

/-- Discovers all schemas that can be reached from the included endpoints, given those that are
already known. -/
def Setting.discover (s : Setting) (schemas : SchemaMap) (names : SchemaNames) :
    Except Failure Found :=
  s.discoverAll s.api.endpoints ⟨names.keys, schemas, names⟩

end ClientPlan
