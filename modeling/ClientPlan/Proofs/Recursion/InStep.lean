import ClientPlan.Proofs.Recursion

/-!
# Calls in step

Two activations are in step if they make the same choices and differ only in their calls, which a
relation ties together one by one.  A function that is computed by a recursion answers two calls
alike if a relation holds between them that keeps all further calls in step
(`Recursion.eq_of_inStep`).

A recursion that remembers what it follows is in step with itself under another memory, as long as
the two agree on all that may still be met.  So what is remembered besides that makes no difference
(`Recursion.eq_of_disjoint`).
-/

set_option autoImplicit false

namespace ClientPlan

namespace Body

variable {ι κ α β γ : Type} {S : κ → κ → Prop} {f : κ → Except Failure α}

/-- Two activations do the same, but where one makes a call the other may make another call that `S`
relates to it. -/
inductive InStep (S : κ → κ → Prop) : Body κ α β → Body κ α β → Prop where
  /-- Both end in the same. -/
  | ends (r : Except Failure β) : InStep S (.ends r) (.ends r)
  /-- Both make calls, and go on in step whatever the answer is. -/
  | calls {followed followed' : Option String} {c c' : κ} {next next' : α → Body κ α β}
      (hc : S c c') (h : ∀ a, InStep S (next a) (next' a)) :
      InStep S (.calls followed c next) (.calls followed' c' next')

namespace InStep

theorem pure (b : β) : InStep S (Pure.pure b : Body κ α β) (Pure.pure b) := .ends (.ok b)

theorem call {followed followed' : Option String} {c c' : κ} (h : S c c') :
    InStep S (Body.call followed c : Body κ α α) (Body.call followed' c') :=
  .calls h fun a => .pure a

theorem bind {x x' : Body κ α β} {k k' : β → Body κ α γ} (hx : InStep S x x')
    (hk : ∀ b, InStep S (k b) (k' b)) : InStep S (x >>= k) (x' >>= k') := by
  show InStep S (x.bind k) (x'.bind k')
  induction hx with
  | ends r =>
    cases r with
    | ok b => exact hk b
    | error e => exact .ends (.error e)
  | calls hc _ ih => exact .calls hc ih

/-- What comes after a step that ends starts from a result of that step. -/
theorem ends_bind {r : Except Failure β} {k k' : β → Body κ α γ}
    (hk : ∀ b, r = .ok b → InStep S (k b) (k' b)) :
    InStep S (Body.ends r >>= k) (Body.ends r >>= k') := by
  cases r with
  | ok b => exact hk b rfl
  | error e => exact .ends (.error e)

theorem mapM {l : List ι} {g g' : ι → Body κ α β} (h : ∀ i ∈ l, InStep S (g i) (g' i)) :
    InStep S (l.mapM g) (l.mapM g') := by
  induction l with
  | nil => exact .pure []
  | cons i l ih =>
    rw [List.mapM_cons, List.mapM_cons]
    refine (h i List.mem_cons_self).bind fun b => ?_
    exact (ih fun j hj => h j (List.mem_cons_of_mem i hj)).bind fun bs => .pure (b :: bs)

/-- Activations in step come to the same if related calls have the same answers. -/
theorem value_eq {x x' : Body κ α β} (h : InStep S x x')
    (hcalls : ∀ followed c c', x.Calls followed c → S c c' → f c = f c') :
    x.value f = x'.value f := by
  induction h with
  | ends r => rfl
  | @calls followed followed' c c' next next' hc _ ih =>
    show (f c >>= fun a => (next a).value f) = (f c' >>= fun a => (next' a).value f)
    rw [hcalls followed c c' .here hc]
    exact congrArg _ (funext fun a => ih a fun _ _ _ h => hcalls _ _ _ (.later h))

end InStep

end Body

namespace Recursion

section

variable {κ α : Type} {R : Recursion κ α} {f : κ → Except Failure α} {seen : κ → List String}
  {smaller : κ → κ → Prop}

/-- Related calls have the same answer, if what they do is in step. -/
theorem eq_of_inStep (hf : R.Computes f) (hg : R.Guarded seen smaller) {S : κ → κ → Prop}
    (h : ∀ c c', S c c' → (R c).InStep S (R c')) {c c' : κ} (hc : S c c') : f c = f c' := by
  induction c using hg.wellFounded.induction generalizing c' with
  | _ c ih =>
    rw [hf c, hf c']
    exact (h c c' hc).value_eq fun _ d d' hd hS => ih d (hg.decreases hd) hS

end

/-! ## What is remembered -/

variable {π α : Type} {Meets : π → String → Prop} {p q : π} {seen seen' : List String}

/-- Two calls are made at one place, and what they remember is the same as far as it may be met from
there. -/
structure Alike (Meets : π → String → Prop) (c c' : List String × π) : Prop where
  /-- The place is the same. -/
  place : c.2 = c'.2
  /-- What may be met is remembered by both or by none. -/
  seen : ∀ ref, Meets c.2 ref → (ref ∈ c.1 ↔ ref ∈ c'.1)

namespace Alike

/-- What is not met need not be remembered. -/
theorem of_disjoint (h : ∀ ref ∈ seen, ¬ Meets p ref) : Alike Meets (seen, p) ([], p) :=
  ⟨rfl, fun ref href => iff_of_false (fun hmem => h ref hmem href) List.not_mem_nil⟩

/-- Calls stay alike if no more is met from the next place and the same is remembered on the way. -/
theorem next (h : Alike Meets (seen, p) (seen', p)) (hq : ∀ ref, Meets q ref → Meets p ref)
    (more : List String) : Alike Meets (more ++ seen, q) (more ++ seen', q) :=
  ⟨rfl, fun ref href => by rw [List.mem_append, List.mem_append, h.seen ref (hq ref href)]⟩

end Alike

variable {R : Recursion (List String × π) α} {f : List String × π → Except Failure α}
  {remembers : List String × π → List String}
  {smaller : List String × π → List String × π → Prop}

/-- What is remembered makes no difference if none of it may be met. -/
theorem eq_of_disjoint (hf : R.Computes f) (hg : R.Guarded remembers smaller)
    (h : ∀ seen seen' p, Alike Meets (seen, p) (seen', p) →
      (R (seen, p)).InStep (Alike Meets) (R (seen', p)))
    (hseen : ∀ ref ∈ seen, ¬ Meets p ref) : f (seen, p) = f ([], p) := by
  refine eq_of_inStep hf hg (S := Alike Meets) ?_ (Alike.of_disjoint hseen)
  rintro ⟨seen, p⟩ ⟨seen', p'⟩ hc
  cases hc.place
  exact h seen seen' p hc

end Recursion

end ClientPlan
