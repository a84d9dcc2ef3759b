import ClientPlan.Proofs.Discovery.Visit
import ClientPlan.Proofs.Recursion

/-!
# The recursion of discovery

`Setting.recursion` takes a discovery apart into its visits (`computes_discover`).  A visit makes
progress, and a reference that it follows counts as visited from then on (`guarded_recursion`).
-/

set_option autoImplicit false

namespace ClientPlan

namespace Setting

variable {s : Setting} {f f' : Found} {p : Position} {more rest : List Position}
  {todo : List Endpoint} {followed : Option String} {c : List Endpoint × List Position × Found}

/-- How a discovery goes on once a position has been visited. -/
def goOn (todo : List Endpoint) (rest : List Position) (followed : Option String) :
    Except Halt (List Position × Found) → Body (List Endpoint × List Position × Found) Found Found
  | .ok (more, found) => .call followed (todo, more ++ rest, found)
  | .error (.failure e) => .ends (.error e)
  | .error (.unwritable before found) =>
    .calls followed ([], before, found) fun _ => .ends (.error (.malformed .badScalar))

/-- What a discovery does at a position. -/
def atPosition (s : Setting) (todo : List Endpoint) (p : Position) (rest : List Position)
    (found : Found) : Body (List Endpoint × List Position × Found) Found Found :=
  if !p.node.isMap then goOn todo rest none (.ok ([], found))
  else
    match p.node.get? referenceKey with
    | none => goOn todo rest none (s.visitNode found p)
    | some r => do
      let ref ← .ends r.reference
      if ref ∈ found.visited then goOn todo rest none (.ok ([], found))
      else goOn todo rest (some ref) (s.visitReference found ref)

/-- What a discovery does between its visits; a call has the endpoints and the positions that are
left, and what has been found. -/
def recursion (s : Setting) : Recursion (List Endpoint × List Position × Found) Found
  | (todo, p :: rest, found) => s.atPosition todo p rest found
  | (e :: todo, [], found) => do
    if ← .ends (s.includes e) then .call none (todo, e.schemaPositions, found)
    else .call none (todo, [], found)
  | ([], [], found) => pure found

/-! ## Calls -/

/-- What is called after a visit is about what the visit leaves, with all that is left besides or with
nothing else. -/
theorem calls_goOn {visited : Except Halt (List Position × Found)} {followed' : Option String}
    (h : (goOn todo rest followed visited).Calls followed' c) :
    ∃ more f' todo' rest', Leaves visited more f' ∧ followed' = followed ∧
      todo'.length ≤ todo.length ∧ rest'.Sublist rest ∧ c = (todo', more ++ rest', f') := by
  unfold goOn at h
  split at h
  · next more f' =>
    obtain ⟨rfl, rfl⟩ := Body.calls_call h
    exact ⟨more, f', todo, rest, .inl rfl, rfl, Nat.le_refl _, List.Sublist.refl _, rfl⟩
  · cases h
  · next before f' =>
    cases h with
    | here =>
      refine ⟨before, f', [], [], .inr rfl, rfl, Nat.zero_le _, List.nil_sublist _, ?_⟩
      rw [List.append_nil]
    | later h => cases h

theorem visited_of_visitReference {ref : String}
    (h : Leaves (s.visitReference f ref) more f') : f'.visited = ref :: f.visited := by
  unfold visitReference at h
  split at h
  · exact absurd h not_leaves_failure
  split at h
  · exact (visited_of_enter h).1
  · obtain ⟨-, rfl⟩ := eq_of_leaves_ok h
    rfl

/-- A visit keeps what has been visited. -/
theorem visited_subset_of_leaves (h : Leaves (s.visit f p) more f') : f.visited ⊆ f'.visited := by
  have hvisit := comesTo_visit s f p
  generalize s.visit f p = visited at h hvisit
  cases hvisit with
  | failure e => exact absurd h not_leaves_failure
  | notMap | again | followed =>
    obtain ⟨-, rfl⟩ := eq_of_leaves_ok h
    exact List.Subset.refl _
  | unplaced =>
    rw [(visited_of_enter h).1]
    exact List.Subset.refl _
  | node | reference =>
    rw [(visited_of_enter h).1]
    exact List.subset_cons_self _ _
  | dead =>
    obtain ⟨-, rfl⟩ := eq_of_leaves_ok h
    exact List.subset_cons_self _ _

/-- At a position a discovery visits it, and follows a reference only for the first time. -/
theorem calls_atPosition (h : (s.atPosition todo p rest f).Calls followed c) :
    ∃ more f' todo' rest', Leaves (s.visit f p) more f' ∧ todo'.length ≤ todo.length ∧
      rest'.Sublist rest ∧ c = (todo', more ++ rest', f') ∧
      ∀ ref, followed = some ref → ref ∉ f.visited ∧ ref ∈ f'.visited := by
  unfold atPosition at h
  by_cases hmap : (!p.node.isMap) = true
  · rw [if_pos hmap] at h
    obtain ⟨more, f', todo', rest', hv, rfl, htodo, hrest, rfl⟩ := calls_goOn h
    exact ⟨more, f', todo', rest', by rwa [visit, if_pos hmap], htodo, hrest, rfl,
      fun _ heq => by cases heq⟩
  rw [if_neg hmap] at h
  cases hr : p.node.get? referenceKey with
  | none =>
    rw [hr] at h
    obtain ⟨more, f', todo', rest', hv, rfl, htodo, hrest, rfl⟩ := calls_goOn h
    exact ⟨more, f', todo', rest', by rwa [visit, if_neg hmap, hr], htodo, hrest, rfl,
      fun _ heq => by cases heq⟩
  | some r =>
    rw [hr] at h
    obtain ⟨ref, href, h⟩ := Body.calls_ends_bind h
    rw [visit_of_reference hmap hr href]
    split at h
    · next hseen =>
      obtain ⟨more, f', todo', rest', hv, rfl, htodo, hrest, rfl⟩ := calls_goOn h
      exact ⟨more, f', todo', rest', by rwa [if_pos hseen], htodo, hrest, rfl,
        fun _ heq => by cases heq⟩
    · next hseen =>
      obtain ⟨more, f', todo', rest', hv, rfl, htodo, hrest, rfl⟩ := calls_goOn h
      refine ⟨more, f', todo', rest', by rwa [if_neg hseen], htodo, hrest, rfl, fun ref' heq => ?_⟩
      cases heq
      rw [visited_of_visitReference hv]
      exact ⟨hseen, List.mem_cons_self⟩

/-- All calls that a discovery makes: it visits the next position, or begins with the next
endpoint. -/
theorem calls_recursion {work : List Position}
    (h : (s.recursion (todo, work, f)).Calls followed c) :
    (∃ p rest more f' todo' rest', work = p :: rest ∧ Leaves (s.visit f p) more f' ∧
      todo'.length ≤ todo.length ∧ rest'.Sublist rest ∧ c = (todo', more ++ rest', f') ∧
      ∀ ref, followed = some ref → ref ∉ f.visited ∧ ref ∈ f'.visited) ∨
    ∃ e todo' work', work = [] ∧ todo = e :: todo' ∧ followed = none ∧ c = (todo', work', f) := by
  cases work with
  | cons p rest =>
    obtain ⟨more, f', todo', rest', h⟩ := calls_atPosition h
    exact .inl ⟨p, rest, more, f', todo', rest', rfl, h⟩
  | nil =>
    cases todo with
    | nil => cases h
    | cons e todo =>
      obtain ⟨included, -, h⟩ := Body.calls_ends_bind h
      cases included with
      | true =>
        obtain ⟨rfl, rfl⟩ := Body.calls_call h
        exact .inr ⟨e, todo, _, rfl, rfl, rfl, rfl⟩
      | false =>
        obtain ⟨rfl, rfl⟩ := Body.calls_call h
        exact .inr ⟨e, todo, _, rfl, rfl, rfl, rfl⟩

/-- The measure of what is left of a discovery: the endpoints, then the positions. -/
abbrev remaining (s : Setting) (c : List Endpoint × List Position × Found) : Nat × Nat × Nat :=
  (c.1.length, s.measure c.2.1 c.2.2)

/-- A discovery makes progress, and what it follows counts as visited. -/
theorem guarded_recursion : s.recursion.Guarded (fun c => c.2.2.visited)
    fun c' c => Prod.Lex (· < ·) (Prod.Lex (· < ·) (· < ·)) (s.remaining c') (s.remaining c) := by
  refine .of_calls (InvImage.wf s.remaining (WellFoundedRelation.wf (α := Nat × Nat × Nat))) ?_
  rintro ⟨todo, work, f⟩ followed c' h
  rcases calls_recursion h with ⟨p, rest, more, f', todo', rest', rfl, hv, htodo, hrest, rfl,
    hfresh⟩ | ⟨e, todo', work', rfl, rfl, rfl, rfl⟩
  · refine ⟨?_, visited_subset_of_leaves hv, hfresh⟩
    rcases Nat.lt_or_eq_of_le htodo with hlt | heq
    · exact Prod.Lex.left _ _ hlt
    · -- With the same endpoints left, a visit lowers the second component.
      have hless := measure_lt_of_leaves hrest hv
      simp only [remaining, heq]
      exact Prod.Lex.right _ hless
  · exact ⟨Prod.Lex.left _ _ (Nat.lt_succ_self todo'.length), List.Subset.refl _,
      fun ref heq => by cases heq⟩

/-! ## Discovery is computed -/

/-- What calls of a discovery are answered with. -/
abbrev discoverRest (s : Setting) (c : List Endpoint × List Position × Found) :
    Except Failure Found := do s.discoverAll c.1 (← s.discoverFrom c.2.1 c.2.2)

/-- What comes of a visit if what it leaves is answered by a function. -/
def answerVisit (g : List Endpoint × List Position × Found → Except Failure Found)
    (todo : List Endpoint) (rest : List Position) :
    Except Halt (List Position × Found) → Except Failure Found
  | .ok (more, found) => g (todo, more ++ rest, found)
  | .error (.failure e) => .error e
  | .error (.unwritable before found) => do
    discard (g ([], before, found))
    throw (.malformed .badScalar)

section

variable {g : List Endpoint × List Position × Found → Except Failure Found}

theorem value_goOn {visited : Except Halt (List Position × Found)} :
    (goOn todo rest followed visited).value g = answerVisit g todo rest visited := by
  unfold goOn answerVisit
  split
  · exact Body.value_call _ _
  · rfl
  · next before found =>
    show g ([], before, found) >>= _ = _
    cases g ([], before, found) <;> rfl

theorem value_atPosition :
    (s.atPosition todo p rest f).value g = answerVisit g todo rest (s.visit f p) := by
  unfold atPosition
  by_cases hmap : (!p.node.isMap) = true
  · rw [if_pos hmap, visit, if_pos hmap]
    exact value_goOn
  rw [if_neg hmap]
  cases hr : p.node.get? referenceKey with
  | none =>
    rw [visit, if_neg hmap, hr]
    exact value_goOn
  | some r =>
    dsimp only
    rw [Body.value_bind, Body.value_ends]
    cases href : r.reference with
    | error e =>
      rw [visit_of_reference_error hmap hr href]
      rfl
    | ok ref =>
      rw [visit_of_reference hmap hr href]
      show (if ref ∈ f.visited then _ else _ : Body _ _ _).value g = _
      split
      · exact value_goOn
      · exact value_goOn

end

theorem computes_discover : s.recursion.Computes s.discoverRest := by
  rintro ⟨todo, work, f⟩
  cases work with
  | cons p rest =>
    rw [recursion, value_atPosition, discoverRest]
    dsimp only
    rw [discoverFrom]
    rcases s.visit f p with (e | ⟨before, f'⟩) | ⟨more, f'⟩
    · rfl
    · rw [answerVisit, discoverRest]
      dsimp only
      cases s.discoverFrom before f' <;> rfl
    · rfl
  | nil =>
    rw [discoverRest]
    dsimp only
    rw [discoverFrom]
    cases todo with
    | nil => rfl
    | cons e todo =>
      rw [recursion, Body.value_bind, Body.value_ends]
      show s.discoverAll (e :: todo) f = _
      rw [discoverAll]
      refine congrArg _ (funext fun included => ?_)
      cases included with
      | true =>
        rw [if_pos rfl, if_pos rfl]
        exact (Body.value_call (f := s.discoverRest) none (todo, e.schemaPositions, f)).symm
      | false =>
        rw [if_neg Bool.false_ne_true, if_neg Bool.false_ne_true]
        rw [Body.value_call, discoverRest]
        dsimp only
        rw [discoverFrom]
        rfl

end Setting

end ClientPlan
