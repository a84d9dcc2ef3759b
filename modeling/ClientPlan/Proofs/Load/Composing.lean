import ClientPlan.Proofs.Outcome
import ClientPlan.Yaml.Node

/-!
# Faults of reading nodes

Reading the nodes of a document fails at a scalar only where the stream is broken at one
(`Graph.broken_of_ofTokens`).
-/

set_option autoImplicit false

namespace ClientPlan.Yaml.Graph

/-- A reading does not go on to a place where the stream is broken by the scalar fault `m`. -/
def Clear (m : Malformed) (st : Reading) : Prop := Token.broken (.scalar m) ∉ st.tokens

/-- A step of reading leaves a clear reading, or fails otherwise than by `m`. -/
abbrev Steers {α : Type} (m : Malformed) : Except Fault (α × Reading) → Prop :=
  Ends (fun r => Clear m r.2) (· ≠ .scalar m)

section

variable {m : Malformed} {st : Reading}

theorem Clear.next (h : Clear m st) : Clear m (next st) := fun hmem => h (List.mem_of_mem_tail hmem)

theorem malformed_ne : Fault.malformed ≠ .scalar m := by
  intro h
  cases h

theorem Clear.unexpected (h : Clear m st) : unexpected st ≠ .scalar m := by
  unfold Graph.unexpected
  split
  · next f r hst =>
    rintro rfl
    exact h (hst ▸ List.mem_cons_self)
  · exact malformed_ne

theorem Clear.expect (h : Clear m st) (t : Token) :
    Ends (Clear m) (· ≠ .scalar m) (expect t st) := by
  unfold Graph.expect
  split
  · exact .ok h.next
  · exact .error h.unexpected

theorem Clear.fullTag (handle : Option String) (suffix : String) :
    Ends (fun _ => True) (· ≠ .scalar m) (fullTag st handle suffix) := by
  unfold Graph.fullTag
  repeat' split
  all_goals first
    | exact .ok trivial
    | exact .error malformed_ne

theorem Clear.unbroken (h : Clear m st) :
    Ends (fun _ => True) (· ≠ .scalar m) (unbroken st) := by
  unfold Graph.unbroken
  split
  · next f r hst =>
    refine .error ?_
    rintro rfl
    exact h (hst ▸ List.mem_cons_self)
  · exact .ok trivial

theorem Clear.properties (h : Clear m st) : Steers m (properties st) := by
  unfold Graph.properties
  split
  · exact (fullTag _ _).bind fun _ _ _ => .ok h.next.next
  · exact (fullTag _ _).bind fun _ _ _ => .ok h.next.next
  · exact .ok h.next
  · exact h.next.unbroken.bind fun _ _ _ => (fullTag _ _).bind fun _ _ _ => .ok h.next
  · exact .ok h

theorem Clear.start (h : Clear m st) (p : Properties) :
    Ends (Clear m) (· ≠ .scalar m) (p.start st) := by
  refine h.unbroken.bind fun _ _ _ => ?_
  split
  · exact .error malformed_ne
  · exact .ok h

theorem Clear.name (h : Clear m st) (p : Properties) (number : Nat) :
    Clear m (p.name number st) := by
  unfold Properties.name
  split <;> exact h

theorem Clear.addScalar (h : Clear m st) (p : Properties) (text : String) (plain : Bool) :
    Clear m (p.addScalar text plain st).2 := name (show Clear m (add _ st).2 from h) p _

theorem Clear.enter (h : Clear m st) (p : Properties) (n : Node) : Clear m (p.enter n st).2 :=
  name (show Clear m (add _ st).2 from h) p _

theorem Clear.aliased (h : Clear m st) (name : String) : Steers m (aliased name st) := by
  unfold Graph.aliased
  split
  · exact .error malformed_ne
  · exact .ok h.next

end

/-- A part of a collection may be left out. -/
theorem steers_part {α : Type} {m : Malformed} {c : Prop} [Decidable c] {st : Reading}
    {x : Except Fault (Nat × Reading)} {f : Nat × Reading → Except Fault (α × Reading)}
    (h : Clear m st) (hx : Steers m x) (hf : ∀ n st', Clear m st' → Steers m (f (n, st'))) :
    Steers m (if c then pure (addEmpty st) >>= f else x >>= f) :=
  Ends.ite_bind (.ok h) hx fun r hr => hf r.1 r.2 hr

/-- The value of an entry may be left out, and so may the colon in front of it. -/
theorem steers_value {α : Type} {m : Malformed} {c c' : Prop} [Decidable c] [Decidable c']
    {st : Reading} {x : Except Fault (Nat × Reading)}
    {f : Nat × Reading → Except Fault (α × Reading)} (h : Clear m st) (hx : Steers m x)
    (hf : ∀ n st', Clear m st' → Steers m (f (n, st'))) :
    Steers m (if c then if c' then pure (addEmpty (next st)) >>= f else x >>= f
      else pure (addEmpty st) >>= f) := by
  split
  · exact steers_part h.next hx hf
  · exact hf _ _ h

-- The readers of nodes and of collections call one another with one step less, so what is said of
-- them is proved of all at once.
mutual

theorem steers_node {m : Malformed} : ∀ (block loose : Bool) (fuel : Nat) {st : Reading},
    Clear m st → Steers m (node block loose fuel st)
  | _, _, 0, _, _ => .error malformed_ne
  | block, loose, fuel + 1, st, h => by
    rw [node]
    split
    · exact h.aliased _
    · refine h.properties.bind fun ⟨p, st₁⟩ _ h₁ => (h₁.start p).bind fun st₂ _ h₂ => ?_
      split
      · exact .ok (h₂.next.addScalar _ _ _)
      · exact (steers_flowItems fuel true [] (h₂.enter _ _).next).bind fun _ _ h₃ => .ok h₃
      · exact (steers_flowEntries fuel true [] (h₂.enter _ _).next).bind fun _ _ h₃ => .ok h₃
      · split
        · exact (steers_looseItems fuel [] (h₂.enter _ _)).bind fun _ _ h₃ => .ok h₃
        · split
          · exact (steers_blockItems fuel [] (h₂.enter _ _).next).bind fun _ _ h₃ => .ok h₃
          · split
            · exact (steers_blockEntries fuel [] (h₂.enter _ _).next).bind fun _ _ h₃ => .ok h₃
            · split
              · exact .error h₂.unexpected
              · exact .ok (h₂.addScalar _ _ _)
      · exact .error malformed_ne

theorem steers_blockItems {m : Malformed} : ∀ (fuel : Nat) (acc : List Nat) {st : Reading},
    Clear m st → Steers m (blockItems fuel acc st)
  | 0, _, _, _ => .error malformed_ne
  | fuel + 1, acc, st, h => by
    rw [blockItems]
    split
    · exact steers_part h.next (steers_node true false fuel h.next) fun n st₁ h₁ =>
        steers_blockItems fuel _ h₁
    · exact (h.expect _).bind fun _ _ h₁ => .ok h₁

theorem steers_looseItems {m : Malformed} : ∀ (fuel : Nat) (acc : List Nat) {st : Reading},
    Clear m st → Steers m (looseItems fuel acc st)
  | 0, _, _, _ => .error malformed_ne
  | fuel + 1, acc, st, h => by
    rw [looseItems]
    split
    · exact steers_part h.next (steers_node true false fuel h.next) fun n st₁ h₁ =>
        steers_looseItems fuel _ h₁
    · exact .ok h

theorem steers_blockEntries {m : Malformed} : ∀ (fuel : Nat) (acc : List (Nat × Nat))
    {st : Reading}, Clear m st → Steers m (blockEntries fuel acc st)
  | 0, _, _, _ => .error malformed_ne
  | fuel + 1, acc, st, h => by
    rw [blockEntries]
    split
    · refine steers_part h.next (steers_node true true fuel h.next) fun k st₁ h₁ => ?_
      dsimp only
      split
      · exact steers_part h₁.next (steers_node true true fuel h₁.next) fun v st₂ h₂ =>
          steers_blockEntries fuel _ h₂
      · exact steers_blockEntries fuel _ h₁
    · exact (h.expect _).bind fun _ _ h₁ => .ok h₁

theorem steers_flowItems {m : Malformed} : ∀ (fuel : Nat) (first : Bool) (acc : List Nat)
    {st : Reading}, Clear m st → Steers m (flowItems fuel first acc st)
  | 0, _, _, _, _ => .error malformed_ne
  | fuel + 1, first, acc, st, h => by
    rw [flowItems]
    split
    · exact .ok h.next
    · refine Ends.ite_bind (.ok h) (h.expect _) fun st₁ h₁ => ?_
      dsimp only
      split
      · exact .ok h₁.next
      · split
        · refine steers_part (h₁.next.enter _ _) (steers_node false false fuel (h₁.next.enter _ _))
            fun k st₂ h₂ => ?_
          have hvalue := steers_node false false fuel h₂.next
          exact steers_value h₂ hvalue fun v st₃ h₃ => steers_flowItems fuel _ _ h₃
        · exact (steers_node false false fuel h₁).bind fun _ _ h₂ => steers_flowItems fuel _ _ h₂

theorem steers_flowEntries {m : Malformed} : ∀ (fuel : Nat) (first : Bool)
    (acc : List (Nat × Nat)) {st : Reading}, Clear m st → Steers m (flowEntries fuel first acc st)
  | 0, _, _, _, _ => .error malformed_ne
  | fuel + 1, first, acc, st, h => by
    rw [flowEntries]
    split
    · exact .ok h.next
    · refine Ends.ite_bind (.ok h) (h.expect _) fun st₁ h₁ => ?_
      dsimp only
      split
      · exact .ok h₁.next
      · split
        · refine steers_part h₁.next (steers_node false false fuel h₁.next) fun k st₂ h₂ => ?_
          have hvalue := steers_node false false fuel h₂.next
          exact steers_value h₂ hvalue fun v st₃ h₃ => steers_flowEntries fuel _ _ h₃
        · exact (steers_node false false fuel h₁).bind fun _ _ h₂ => steers_flowEntries fuel _ _ h₂

end

/-! ## Documents -/

theorem clear_of_directives {m : Malformed} {versioned : Bool} {handles : List (String × String)}
    {tokens : List Token} (h : Token.broken (.scalar m) ∉ tokens) :
    Ends (fun r => Token.broken (.scalar m) ∉ r.2) (· ≠ .scalar m)
      (directives versioned handles tokens) := by
  fun_induction directives versioned handles tokens with
  | case1 => exact .error malformed_ne
  | case2 _ _ _ _ _ ih => exact ih fun hr => h (List.mem_cons_of_mem _ hr)
  | case3 => exact .error malformed_ne
  | case4 _ _ _ _ _ _ ih => exact ih fun hr => h (List.mem_cons_of_mem _ hr)
  | case5 _ _ _ ih => exact ih fun hr => h (List.mem_cons_of_mem _ hr)
  | case6 => exact .ok h

theorem Clear.expectEnd {m : Malformed} {st : Reading} (h : Clear m st) :
    Ends (fun _ => True) (· ≠ .scalar m) (expectEnd st) := by
  unfold Graph.expectEnd
  split
  · exact .ok trivial
  · have hrest : Token.broken (.scalar m) ∉ st.tokens.dropWhile (· == .documentEnd) :=
      fun hmem => h ((List.dropWhile_suffix _).subset hmem)
    refine (clear_of_directives hrest).bind fun r _ hr => .error ?_
    exact Clear.unexpected (show Clear m { st with tokens := r.2 } from hr)

theorem Clear.whole {m : Malformed} {st : Reading} (h : Clear m st) :
    Ends (fun _ => True) (· ≠ .scalar m) (whole st) :=
  (steers_node true false _ h).bind fun _ _ h₁ => (Clear.expectEnd h₁).bind fun _ _ _ => .ok trivial

/-- The document after its directives and its mark. -/
theorem ends_headed {m : Malformed} {tokens : List Token} (h : Token.broken (.scalar m) ∉ tokens) :
    Ends (fun _ => True) (· ≠ .scalar m) (do
      let (handles, tokens) ← directives false [] tokens
      let st ← expect .documentStart { tokens, handles }
      match st.tokens with
      | .directive _ :: _ | .documentStart :: _ | .documentEnd :: _ | .streamEnd :: _ => do
        expectEnd st
        let (root, st) := addEmpty st
        return some (ofReading root st)
      | _ => whole st) := by
  refine (clear_of_directives h).bind fun ⟨handles, tokens⟩ _ h₁ => ?_
  refine (Clear.expect (show Clear m { tokens, handles } from h₁) _).bind fun st _ h₂ => ?_
  split
  · exact (Clear.expectEnd h₂).bind fun _ _ _ => .ok trivial
  · exact (Clear.expectEnd h₂).bind fun _ _ _ => .ok trivial
  · exact (Clear.expectEnd h₂).bind fun _ _ _ => .ok trivial
  · exact (Clear.expectEnd h₂).bind fun _ _ _ => .ok trivial
  · exact Clear.whole h₂

/-- Where the nodes of a document cannot be read because of a scalar, the stream is broken at one. -/
theorem broken_of_ofTokens {tokens : List Token} {m : Malformed}
    (h : ofTokens tokens = .error (.scalar m)) : Token.broken (.scalar m) ∈ tokens := by
  by_contra hclear
  have hends : Ends (fun _ => True) (· ≠ .scalar m) (ofTokens tokens) := by
    unfold ofTokens
    split
    · exact .ok trivial
    · exact ends_headed hclear
    · exact ends_headed hclear
    · exact Clear.whole (show Clear m { tokens, handles := standardHandles } from hclear)
  rw [h] at hends
  exact hends.of_error rfl

end ClientPlan.Yaml.Graph
