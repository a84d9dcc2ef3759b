import ClientPlan.Api.Field
import ClientPlan.Plan.Logged
import Mathlib.Data.List.Forall2

/-!
# Successful outcomes

A sequence of steps succeeds exactly when its first step does and the steps after it succeed on what
the first one gave.  The statements are for plain outcomes and for outcomes with warnings.
-/

set_option autoImplicit false

namespace ClientPlan

theorem bind_eq_ok {ε α β : Type} {x : Except ε α} {f : α → Except ε β} {b : β} :
    (x >>= f) = .ok b ↔ ∃ a, x = .ok a ∧ f a = .ok b := by
  cases x <;> simp [bind, Except.bind]

theorem map_eq_ok {ε α β : Type} {x : Except ε α} {f : α → β} {b : β} :
    (f <$> x) = .ok b ↔ ∃ a, x = .ok a ∧ f a = b := by
  cases x <;> simp [Functor.map, Except.map]

theorem mapError_eq_ok {ε ε' α : Type} {x : Except ε α} {f : ε → ε'} {a : α} :
    x.mapError f = .ok a ↔ x = .ok a := by
  cases x with
  | error e =>
    constructor
    · intro h
      cases h
    · intro h
      cases h
  | ok b => exact ⟨fun h => congrArg _ (Except.ok.inj h), fun h => congrArg _ (Except.ok.inj h)⟩

/-- A sequence of steps fails where one of its steps does. -/
theorem bind_eq_error {ε α β : Type} {x : Except ε α} {f : α → Except ε β} {e : ε} :
    (x >>= f) = .error e ↔ x = .error e ∨ ∃ a, x = .ok a ∧ f a = .error e := by
  cases x <;> simp [bind, Except.bind]

theorem map_eq_error {ε α β : Type} {x : Except ε α} {f : α → β} {e : ε} :
    (f <$> x) = .error e ↔ x = .error e := by
  cases x <;> simp [Functor.map, Except.map]

theorem pure_eq_ok {ε α : Type} {a b : α} : (pure a : Except ε α) = .ok b ↔ a = b := by
  simp [pure, Except.pure]

theorem toOption_eq_some_iff {ε α : Type} {x : Except ε α} {a : α} :
    x.toOption = some a ↔ x = .ok a := by
  cases x <;> simp [Except.toOption]

/-- What is tested of a result is true of it. -/
theorem toOption_any_eq_true {ε α : Type} {x : Except ε α} {test : α → Bool} :
    x.toOption.any test = true ↔ ∃ a, x = .ok a ∧ test a = true := by
  simp only [Option.any_eq_true, toOption_eq_some_iff]

/-- A check succeeds as a step of reading exactly when it finds nothing wrong. -/
theorem Checked.required_eq_ok {α : Type} {x : Checked α} {a : α} :
    x.required = .ok a ↔ x = .ok a := by
  cases x with
  | error problems =>
    constructor
    · intro h
      cases h
    · intro h
      cases h
  | ok a' =>
    constructor
    · intro h
      cases h
      rfl
    · intro h
      cases h
      rfl

/-- Two checks succeed together exactly when both do. -/
theorem Checked.both_eq_ok {α β : Type} {x : Checked α} {y : Checked β} {a : α} {b : β} :
    x.both y = .ok (a, b) ↔ x = .ok a ∧ y = .ok b := by
  cases x <;> cases y <;> simp [Checked.both]

/-! ## Lists of steps -/

/-- What holds at the start of a run over a list and is kept by each step holds at its end. -/
theorem foldlM_induction {ε α β : Type} {P : β → Prop} {f : β → α → Except ε β} {l : List α}
    (hstep : ∀ a ∈ l, ∀ b b', P b → f b a = .ok b' → P b') {b b' : β} (hP : P b)
    (h : l.foldlM f b = .ok b') : P b' := by
  induction l generalizing b with
  | nil =>
    cases h
    exact hP
  | cons a r ih =>
    rw [List.foldlM_cons] at h
    obtain ⟨c, hc, h⟩ := bind_eq_ok.1 h
    exact ih (fun a' ha' => hstep a' (List.mem_cons_of_mem a ha'))
      (hstep a List.mem_cons_self b c hP hc) h

/-- Every result of a run over a list is that of one of its steps. -/
theorem exists_of_mem_mapM {ε α β : Type} {f : α → Except ε β} {l : List α} {r : List β}
    (h : l.mapM f = .ok r) {b : β} (hb : b ∈ r) : ∃ a ∈ l, f a = .ok b := by
  induction l generalizing r with
  | nil =>
    cases h
    cases hb
  | cons a l ih =>
    rw [List.mapM_cons] at h
    obtain ⟨c, hc, h⟩ := bind_eq_ok.1 h
    obtain ⟨r', hr', h⟩ := bind_eq_ok.1 h
    rw [pure_eq_ok] at h
    subst h
    rcases List.mem_cons.1 hb with rfl | hb
    · exact ⟨a, List.mem_cons_self, hc⟩
    · obtain ⟨a', ha', hf⟩ := ih hr' hb
      exact ⟨a', List.mem_cons_of_mem a ha', hf⟩

/-- A run over a list succeeds exactly when each of its steps gives the result at its place. -/
theorem mapM_eq_ok_iff {ε α β : Type} {f : α → Except ε β} {l : List α} {r : List β} :
    l.mapM f = .ok r ↔ List.Forall₂ (fun a b => f a = .ok b) l r := by
  induction l generalizing r with
  | nil =>
    rw [List.mapM_nil, pure_eq_ok, List.forall₂_nil_left_iff]
    exact eq_comm
  | cons a l ih =>
    rw [List.mapM_cons, bind_eq_ok, List.forall₂_cons_left_iff]
    simp only [bind_eq_ok, pure_eq_ok, ih]
    constructor
    · rintro ⟨b, hb, r', hr', rfl⟩
      exact ⟨b, r', hb, hr', rfl⟩
    · rintro ⟨b, r', hb, hr', rfl⟩
      exact ⟨b, hb, r', hr', rfl⟩

/-- A run over a list fails where one of its steps does. -/
theorem exists_of_mapM_eq_error {ε α β : Type} {f : α → Except ε β} {l : List α} {e : ε}
    (h : l.mapM f = .error e) : ∃ a ∈ l, f a = .error e := by
  induction l with
  | nil => cases h
  | cons a l ih =>
    rw [List.mapM_cons] at h
    rcases bind_eq_error.1 h with h | ⟨b, -, h⟩
    · exact ⟨a, List.mem_cons_self, h⟩
    · rcases bind_eq_error.1 h with h | ⟨r, -, h⟩
      · obtain ⟨a', ha', hf⟩ := ih h
        exact ⟨a', List.mem_cons_of_mem a ha', hf⟩
      · cases h

/-- A run over a list fails as the first of its steps that fails does. -/
theorem mapM_eq_error_iff {ε α β : Type} {f : α → Except ε β} {l : List α} {fails : α → Bool}
    {failure : α → ε} (hf : ∀ a ∈ l, ∀ e, f a = .error e ↔ fails a = true ∧ e = failure a) {e : ε} :
    l.mapM f = .error e ↔ ∃ a, l.find? fails = some a ∧ e = failure a := by
  induction l with
  | nil => exact ⟨nofun, fun ⟨a, ha, _⟩ => by cases ha⟩
  | cons a r ih =>
    obtain ⟨ha, hr⟩ := List.forall_mem_cons.1 hf
    rw [List.mapM_cons, List.find?_cons]
    cases hfails : fails a with
    | true =>
      rw [(ha (failure a)).2 ⟨hfails, rfl⟩]
      show Except.error _ = _ ↔ _
      simp [eq_comm]
    | false =>
      cases hstep : f a with
      | error e' => exact absurd ((ha e').1 hstep).1 (by rw [hfails]; exact Bool.false_ne_true)
      | ok b =>
        rw [← ih hr]
        show (r.mapM f >>= fun bs => pure (b :: bs)) = _ ↔ _
        rw [bind_eq_error, or_iff_left (by simp [pure, Except.pure])]

/-! ## Equal steps -/

/-- Steps that go on in the same way from what comes before them are the same. -/
theorem bind_congr_ok {ε α β : Type} {x : Except ε α} {f g : α → Except ε β}
    (h : ∀ a, x = .ok a → f a = g a) : (x >>= f) = (x >>= g) := by
  cases x with
  | error e => rfl
  | ok a => exact h a rfl

theorem mapM_congr {m : Type → Type} [Monad m] [LawfulMonad m] {α β : Type} {f g : α → m β}
    {l : List α} (h : ∀ a ∈ l, f a = g a) : l.mapM f = l.mapM g := by
  induction l with
  | nil => rfl
  | cons a r ih =>
    obtain ⟨ha, hr⟩ := List.forall_mem_cons.1 h
    rw [List.mapM_cons, List.mapM_cons, ha, ih hr]

theorem foldlM_congr {ε α β : Type} {f g : β → α → Except ε β} {l : List α}
    (h : ∀ a ∈ l, ∀ b, f b a = g b a) (b : β) : l.foldlM f b = l.foldlM g b := by
  induction l generalizing b with
  | nil => rfl
  | cons a r ih =>
    obtain ⟨ha, hr⟩ := List.forall_mem_cons.1 h
    rw [List.foldlM_cons, List.foldlM_cons, ha]
    exact bind_congr_ok fun c _ => ih hr c

/-! ## Outcomes that are alike -/

/-- Two steps fail in the same way, or give results that are related. -/
inductive Alike {ε α β : Type} (R : α → β → Prop) : Except ε α → Except ε β → Prop where
  /-- Both give something. -/
  | ok {a : α} {b : β} (h : R a b) : Alike R (.ok a) (.ok b)
  /-- Both fail. -/
  | error (e : ε) : Alike R (.error e) (.error e)

namespace Alike

variable {ε ε' α β γ δ : Type} {R : α → β → Prop} {S : γ → δ → Prop}

theorem map {x : Except ε α} {y : Except ε β} {f : α → γ} {g : β → δ} (h : Alike R x y)
    (hf : ∀ a b, x = .ok a → R a b → S (f a) (g b)) : Alike S (f <$> x) (g <$> y) := by
  cases h with
  | ok h => exact .ok (hf _ _ rfl h)
  | error e => exact .error e

/-- Steps after the same step are alike if they are after what that gives. -/
theorem bind_same {x : Except ε γ} {f : γ → Except ε α} {g : γ → Except ε β}
    (h : ∀ c, Alike R (f c) (g c)) : Alike R (x >>= f) (x >>= g) := by
  cases x with
  | error e => exact .error e
  | ok c => exact h c

theorem mapError {x : Except ε α} {y : Except ε β} {f : ε → ε'} (h : Alike R x y) :
    Alike R (x.mapError f) (y.mapError f) := by
  cases h with
  | ok h => exact .ok h
  | error e => exact .error _

end Alike

/-! ## What an outcome ends with -/

/-- A step ends with a result that satisfies `P` or fails with an error that satisfies `Q`. -/
inductive Ends {ε α : Type} (P : α → Prop) (Q : ε → Prop) : Except ε α → Prop where
  /-- The step gives a result. -/
  | ok {a : α} (h : P a) : Ends P Q (.ok a)
  /-- The step fails. -/
  | error {e : ε} (h : Q e) : Ends P Q (.error e)

namespace Ends

variable {ε α β : Type} {P : α → Prop} {P' : β → Prop} {Q : ε → Prop} {x : Except ε α}

theorem of_error {e : ε} (h : Ends P Q (.error e : Except ε α)) : Q e := by
  cases h with
  | error h => exact h

theorem imp {P₁ : α → Prop} (h : Ends P Q x) (hP : ∀ a, x = .ok a → P a → P₁ a) :
    Ends P₁ Q x := by
  cases h with
  | ok h => exact .ok (hP _ rfl h)
  | error h => exact .error h

theorem imp_error {Q' : ε → Prop} (h : Ends P Q x) (hQ : ∀ e, Q e → Q' e) : Ends P Q' x := by
  cases h with
  | ok h => exact .ok h
  | error h => exact .error (hQ _ h)

/-- A sequence of steps ends well if its first step does and the steps after that do on what the
first one gives. -/
theorem bind {f : α → Except ε β} (hx : Ends P Q x)
    (hf : ∀ a, x = .ok a → P a → Ends P' Q (f a)) : Ends P' Q (x >>= f) := by
  cases hx with
  | ok h => exact hf _ rfl h
  | error h => exact .error h

theorem ite {c : Prop} [Decidable c] {y : Except ε α} (hx : Ends P Q x) (hy : Ends P Q y) :
    Ends P Q (if c then x else y) := by
  split
  · exact hx
  · exact hy

/-- Two steps of which one is taken, and then the same steps. -/
theorem ite_bind {c : Prop} [Decidable c] {y : Except ε α} {f : α → Except ε β} (hx : Ends P Q x)
    (hy : Ends P Q y) (hf : ∀ a, P a → Ends P' Q (f a)) :
    Ends P' Q (if c then x >>= f else y >>= f) :=
  ite (hx.bind fun a _ ha => hf a ha) (hy.bind fun a _ ha => hf a ha)

end Ends

/-! ## Outcomes that give more -/

/-- Whatever `x` gives, `y` gives; where `x` fails, `y` may give something. -/
def Refines {ε ε' α : Type} (x : Except ε α) (y : Except ε' α) : Prop := ∀ a, x = .ok a → y = .ok a

namespace Refines

variable {ε ε' ι α β : Type}

theorem refl (x : Except ε α) : Refines x x := fun _ h => h

theorem of_mapError {x : Except ε α} {f : ε → ε'} : Refines (x.mapError f) x :=
  fun _ h => mapError_eq_ok.1 h

theorem trans {ε'' : Type} {x : Except ε α} {y : Except ε' α} {z : Except ε'' α}
    (h : Refines x y) (h' : Refines y z) : Refines x z := fun a ha => h' a (h a ha)

theorem bind {x : Except ε α} {y : Except ε' α} {f : α → Except ε β} {g : α → Except ε' β}
    (h : Refines x y) (hf : ∀ a, Refines (f a) (g a)) : Refines (x >>= f) (y >>= g) := by
  intro b hb
  obtain ⟨a, ha, hb⟩ := bind_eq_ok.1 hb
  exact bind_eq_ok.2 ⟨a, h a ha, hf a b hb⟩

theorem mapM {f : ι → Except ε α} {g : ι → Except ε' α} {l : List ι}
    (h : ∀ i, Refines (f i) (g i)) : Refines (l.mapM f) (l.mapM g) := by
  induction l with
  | nil =>
    intro r hr
    cases hr
    rfl
  | cons i l ih =>
    rw [List.mapM_cons, List.mapM_cons]
    refine bind (h i) fun a => bind ih fun r b hb => ?_
    cases hb
    rfl

end Refines

namespace Logged

variable {α β : Type}

theorem mk_ok_bind (w : List String) (a : α) (f : α → Logged β) :
    (⟨w, .ok a⟩ : Logged α) >>= f = ⟨w ++ (f a).warnings, (f a).outcome⟩ := rfl

instance : LawfulMonad Logged :=
  LawfulMonad.mk' Logged
    (fun x => by
      obtain ⟨w, r⟩ := x
      cases r with
      | error e => rfl
      | ok a => exact congrArg (Logged.mk · (.ok a)) (List.append_nil w))
    (fun a f => rfl)
    (fun x f g => by
      obtain ⟨w, r⟩ := x
      cases r with
      | error e => rfl
      | ok a =>
        rw [mk_ok_bind, mk_ok_bind]
        cases hf : f a with
        | mk w' r' =>
          cases r' with
          | error e => rfl
          | ok b => simp only [mk_ok_bind, List.append_assoc])

theorem ofExcept_bind (x : Except Failure α) (f : α → Except Failure β) :
    ofExcept (x >>= f) = ofExcept x >>= fun a => ofExcept (f a) := by
  cases x <;> rfl

/-- What comes after an outcome depends only on what it gives. -/
theorem ofExcept_bind_congr {x : Except Failure α} {f g : α → Logged β}
    (h : ∀ a, x = .ok a → f a = g a) : ofExcept x >>= f = ofExcept x >>= g := by
  cases x with
  | error e => rfl
  | ok a =>
    show Logged.bind _ f = Logged.bind _ g
    simp only [Logged.bind, ofExcept, h a rfl]

theorem ofExcept_pure (a : α) : ofExcept (pure a) = pure a := rfl

@[simp] theorem outcome_ofExcept (x : Except Failure α) : (ofExcept x).outcome = x := rfl

@[simp] theorem outcome_pure (a : α) : (pure a : Logged α).outcome = .ok a := rfl

theorem outcome_bind_eq_ok {x : Logged α} {f : α → Logged β} {b : β} :
    (x >>= f).outcome = .ok b ↔ ∃ a, x.outcome = .ok a ∧ (f a).outcome = .ok b := by
  show (Logged.bind x f).outcome = .ok b ↔ _
  unfold Logged.bind
  cases x.outcome <;> simp

theorem outcome_bind_eq_error {x : Logged α} {f : α → Logged β} {e : Failure} :
    (x >>= f).outcome = .error e ↔
      x.outcome = .error e ∨ ∃ a, x.outcome = .ok a ∧ (f a).outcome = .error e := by
  show (Logged.bind x f).outcome = .error e ↔ _
  unfold Logged.bind
  cases x.outcome <;> simp

/-- Sequences whose steps give the same results give the same results. -/
theorem outcome_bind_congr {x x' : Logged α} {f f' : α → Logged β} {b : β}
    (hx : ∀ a, x.outcome = .ok a ↔ x'.outcome = .ok a)
    (hf : ∀ a, (f a).outcome = .ok b ↔ (f' a).outcome = .ok b) :
    (x >>= f).outcome = .ok b ↔ (x' >>= f').outcome = .ok b := by
  simp only [outcome_bind_eq_ok, hx, hf]

end Logged

end ClientPlan
