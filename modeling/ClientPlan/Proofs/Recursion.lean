import ClientPlan.Failure
import ClientPlan.Proofs.Outcome

/-!
# Recursive functions as call trees

A `Recursion` says what a recursive function does between its calls: each activation is a `Body`,
which ends or calls the function again and goes on with the answer.  A call that follows a reference
carries that reference.  A function is computed by a recursion if it answers as its own calls do.

`Recursion.run` carries a recursion out with a bound on how deep calls are nested, and it keeps the
references that are being followed: those on the way from the first call to the present one.  It
stops as soon as one of them is followed again.  If calls get smaller and remember what they follow,
no run stops in this way and every bound that is large enough gives what the function gives
(`Recursion.settles`).  What a run gives is what the function gives in any case
(`Recursion.run_refines`).
-/

set_option autoImplicit false

namespace ClientPlan

/-- Why a run has no result. -/
inductive Stop where
  /-- Calls are nested too deeply. -/
  | tooDeep
  /-- A reference is followed that is already being followed. -/
  | repeated (ref : String)
  /-- The function itself fails. -/
  | failed (e : Failure)

/-- One activation of a function from `κ` to `α` on the way to some `β`. -/
inductive Body (κ α β : Type) where
  /-- It ends. -/
  | ends (r : Except Failure β)
  /-- It calls the function, perhaps to follow a reference, and goes on with the answer. -/
  | calls (followed : Option String) (c : κ) (next : α → Body κ α β)

/-- What a recursive function does between its calls. -/
abbrev Recursion (κ α : Type) := κ → Body κ α α

namespace Body

variable {ι κ α β γ ε : Type} {f : κ → Except Failure α}

/-- One activation after another. -/
def bind : Body κ α β → (β → Body κ α γ) → Body κ α γ
  | ends (.ok b), k => k b
  | ends (.error e), _ => ends (.error e)
  | calls followed c next, k => calls followed c fun a => (next a).bind k

instance : Monad (Body κ α) where
  pure b := ends (.ok b)
  bind := bind

theorem bind_ends (x : Body κ α β) : x.bind (fun b => ends (.ok b)) = x := by
  induction x with
  | ends r => cases r <;> rfl
  | calls followed c next ih => exact congrArg (calls followed c) (funext ih)

theorem bind_bind {δ : Type} (x : Body κ α β) (g : β → Body κ α γ) (h : γ → Body κ α δ) :
    (x.bind g).bind h = x.bind fun b => (g b).bind h := by
  induction x with
  | ends r => cases r <;> rfl
  | calls followed c next ih => exact congrArg (calls followed c) (funext ih)

instance : LawfulMonad (Body κ α) :=
  LawfulMonad.mk' (Body κ α) bind_ends (fun _ _ => rfl) bind_bind

/-- A call whose answer is the result. -/
def call (followed : Option String) (c : κ) : Body κ α α := calls followed c fun a => ends (.ok a)

/-- What an activation comes to if calls are answered by `answer`. -/
def eval (raise : Failure → ε) (answer : Option String → κ → Except ε α) :
    Body κ α β → Except ε β
  | ends r => r.mapError raise
  | calls followed c next => do (next (← answer followed c)).eval raise answer

/-- What an activation comes to if calls are answered by the function itself. -/
abbrev value (f : κ → Except Failure α) (x : Body κ α β) : Except Failure β :=
  x.eval id fun _ c => f c

@[simp] theorem value_ends (r : Except Failure β) : (ends r : Body κ α β).value f = r := by
  cases r <;> rfl

@[simp] theorem value_pure (b : β) : (pure b : Body κ α β).value f = pure b := rfl

@[simp] theorem value_call (followed : Option String) (c : κ) :
    (call followed c).value f = f c := by
  show (f c >>= fun a => Except.mapError id (.ok a)) = f c
  cases f c <;> rfl

@[simp] theorem value_bind (x : Body κ α β) (k : β → Body κ α γ) :
    (x >>= k).value f = x.value f >>= fun b => (k b).value f := by
  show (x.bind k).value f = _
  induction x with
  | ends r => cases r <;> rfl
  | calls followed c next ih =>
    show (f c >>= fun a => ((next a).bind k).value f) =
      (f c >>= fun a => (next a).value f) >>= fun b => (k b).value f
    rw [bind_assoc]
    exact congrArg _ (funext ih)

@[simp] theorem value_map (g : β → γ) (x : Body κ α β) :
    (g <$> x).value f = g <$> x.value f := by
  rw [← bind_pure_comp, ← bind_pure_comp, value_bind]
  rfl

@[simp] theorem value_mapM (l : List ι) (g : ι → Body κ α β) :
    (l.mapM g).value f = l.mapM fun i => (g i).value f := by
  induction l with
  | nil => rfl
  | cons i l ih => simp only [List.mapM_cons, value_bind, value_pure, ih]

/-- What an activation comes to with some answers it comes to with the answers of the function, if
these are the same. -/
theorem eval_refines {raise : Failure → ε} {answer : Option String → κ → Except ε α}
    {x : Body κ α β} (h : ∀ followed c, Refines (answer followed c) (f c)) :
    Refines (x.eval raise answer) (x.value f) := by
  induction x with
  | ends r =>
    rw [value_ends]
    exact Refines.of_mapError
  | calls followed c next ih => exact Refines.bind (h followed c) ih

/-! ## Calls -/

/-- The calls that an activation can make, whatever the answers are. -/
inductive Calls : Body κ α β → Option String → κ → Prop where
  /-- The first call. -/
  | here {followed : Option String} {c : κ} {next : α → Body κ α β} :
      Calls (calls followed c next) followed c
  /-- A call that is made after an answer. -/
  | later {followed followed' : Option String} {c c' : κ} {next : α → Body κ α β} {a : α}
      (h : Calls (next a) followed' c') : Calls (calls followed c next) followed' c'

variable {followed followed' : Option String} {c c' : κ}

theorem not_calls_pure {b : β} : ¬ (pure b : Body κ α β).Calls followed c := by
  intro h
  cases h

theorem calls_call (h : (call followed c : Body κ α α).Calls followed' c') :
    followed' = followed ∧ c' = c := by
  cases h with
  | here => exact ⟨rfl, rfl⟩
  | later h => cases h

theorem calls_bind {x : Body κ α β} {k : β → Body κ α γ} (h : (x >>= k).Calls followed c) :
    x.Calls followed c ∨ ∃ b, (k b).Calls followed c := by
  replace h : (x.bind k).Calls followed c := h
  induction x with
  | ends r =>
    cases r with
    | ok b => exact .inr ⟨b, h⟩
    | error e => cases h
  | calls followed' c' next ih =>
    cases h with
    | here => exact .inl .here
    | @later _ _ _ _ _ a h =>
      rcases ih a h with h | h
      · exact .inl (.later h)
      · exact .inr h

theorem calls_ends_bind {r : Except Failure β} {k : β → Body κ α γ}
    (h : (ends r >>= k).Calls followed c) : ∃ b, r = .ok b ∧ (k b).Calls followed c := by
  cases r with
  | ok b => exact ⟨b, rfl, h⟩
  | error e => cases h

theorem calls_mapM {l : List ι} {g : ι → Body κ α β} (h : (l.mapM g).Calls followed c) :
    ∃ i ∈ l, (g i).Calls followed c := by
  induction l with
  | nil => cases h
  | cons i l ih =>
    rw [List.mapM_cons] at h
    rcases calls_bind h with h | ⟨b, h⟩
    · exact ⟨i, List.mem_cons_self, h⟩
    · rcases calls_bind h with h | ⟨bs, h⟩
      · obtain ⟨j, hj, h⟩ := ih h
        exact ⟨j, List.mem_cons_of_mem i hj, h⟩
      · exact absurd h not_calls_pure

/-- Answers that are the same for all calls give the same. -/
theorem value_congr {g : κ → Except Failure α} {x : Body κ α β}
    (h : ∀ followed c, x.Calls followed c → f c = g c) : x.value f = x.value g := by
  induction x with
  | ends r => rfl
  | calls followed c next ih =>
    show (f c >>= fun a => (next a).value f) = (g c >>= fun a => (next a).value g)
    rw [h followed c .here]
    exact congrArg _ (funext fun a => ih a fun followed' c' hc => h followed' c' (.later hc))

/-- What is done with the result of a step that ends depends on that result only. -/
theorem ends_bind_congr {r : Except Failure β} {k k' : β → Body κ α γ}
    (h : ∀ b, r = .ok b → k b = k' b) : (ends r >>= k) = (ends r >>= k') := by
  cases r with
  | error e => rfl
  | ok b => exact h b rfl

/-! ## Properties of results -/

/-- An activation ends in something with the property `P`, if every call is answered by something
with the property `Q`. -/
def Ensures (Q : κ → α → Prop) (P : β → Prop) : Body κ α β → Prop
  | ends r => ∀ b, r = .ok b → P b
  | calls _ c next => ∀ a, Q c a → (next a).Ensures Q P

variable {Q : κ → α → Prop} {P : β → Prop}

theorem ensures_of_imp {p : Prop} {x : Body κ α β} (h : p → x.Ensures Q P) :
    x.Ensures Q fun b => p → P b := by
  induction x with
  | ends r => exact fun b hb hp => h hp b hb
  | calls followed c next ih => exact fun a ha => ih a fun hp => h hp a ha

theorem ensures_pure {b : β} (h : P b) : (pure b : Body κ α β).Ensures Q P := by
  intro b' hb
  cases hb
  exact h

theorem ensures_call {P : α → Prop} (h : ∀ a, Q c a → P a) :
    (call followed c : Body κ α α).Ensures Q P := fun a ha => ensures_pure (h a ha)

theorem ensures_bind {R : γ → Prop} {x : Body κ α β} {k : β → Body κ α γ} (hx : x.Ensures Q P)
    (hk : ∀ b, P b → (k b).Ensures Q R) : (x >>= k).Ensures Q R := by
  show (x.bind k).Ensures Q R
  induction x with
  | ends r =>
    cases r with
    | ok b => exact hk b (hx b rfl)
    | error e =>
      intro b hb
      cases hb
  | calls followed c next ih => exact fun a ha => ih a (hx a ha)

theorem ensures_mapM {l : List ι} {g : ι → Body κ α β} (h : ∀ i ∈ l, (g i).Ensures Q P) :
    (l.mapM g).Ensures Q fun bs => ∀ b ∈ bs, P b := by
  induction l with
  | nil =>
    refine ensures_pure ?_
    intro b hb
    cases hb
  | cons i l ih =>
    rw [List.mapM_cons]
    refine ensures_bind (h i List.mem_cons_self) fun b hb => ?_
    refine ensures_bind (ih fun j hj => h j (List.mem_cons_of_mem i hj)) fun bs hbs => ?_
    exact ensures_pure (List.forall_mem_cons.2 ⟨hb, hbs⟩)

/-- What each of several activations ensures holds of the results one by one. -/
theorem ensures_mapM_forall₂ {P : ι → β → Prop} {l : List ι} {g : ι → Body κ α β}
    (h : ∀ i ∈ l, (g i).Ensures Q (P i)) : (l.mapM g).Ensures Q (List.Forall₂ P l) := by
  induction l with
  | nil => exact ensures_pure .nil
  | cons i l ih =>
    rw [List.mapM_cons]
    refine ensures_bind (h i List.mem_cons_self) fun b hb => ?_
    refine ensures_bind (ih fun j hj => h j (List.mem_cons_of_mem i hj)) fun bs hbs => ?_
    exact ensures_pure (.cons hb hbs)

/-- What an activation ensures holds of its result, if it holds of the answers to its calls. -/
theorem Ensures.holds {x : Body κ α β} {b : β} (h : x.Ensures Q P)
    (hcalls : ∀ followed c a, x.Calls followed c → f c = .ok a → Q c a)
    (hb : x.value f = .ok b) : P b := by
  induction x with
  | ends r =>
    rw [value_ends] at hb
    exact h b hb
  | calls followed c next ih =>
    obtain ⟨a, ha, hb⟩ := bind_eq_ok.1 hb
    exact ih a (h a (hcalls _ _ _ .here ha)) (fun _ _ _ hc => hcalls _ _ _ (.later hc)) hb

/-! ## Failures -/

/-- An activation fails only as `F` says and makes only calls with the property `Q`. -/
def Confined (F : Failure → Prop) (Q : κ → Prop) : Body κ α β → Prop
  | ends r => ∀ e, r = .error e → F e
  | calls _ c next => Q c ∧ ∀ a, (next a).Confined F Q

section confined

variable {F : Failure → Prop} {Q : κ → Prop}

theorem confined_pure {b : β} : (pure b : Body κ α β).Confined F Q := by
  intro e he
  cases he

theorem confined_call (h : Q c) : (call followed c : Body κ α α).Confined F Q :=
  ⟨h, fun _ => confined_pure⟩

theorem confined_bind {x : Body κ α β} {k : β → Body κ α γ} (hx : x.Confined F Q)
    (hk : ∀ b, (k b).Confined F Q) : (x >>= k).Confined F Q := by
  show (x.bind k).Confined F Q
  induction x with
  | ends r =>
    cases r with
    | ok b => exact hk b
    | error e =>
      intro e' he
      cases he
      exact hx e rfl
  | calls followed c next ih => exact ⟨hx.1, fun a => ih a (hx.2 a)⟩

/-- What comes after a step that ends starts from a result of that step. -/
theorem confined_ends_bind {r : Except Failure β} {k : β → Body κ α γ}
    (hr : ∀ e, r = .error e → F e) (hk : ∀ b, r = .ok b → (k b).Confined F Q) :
    (ends r >>= k).Confined F Q := by
  cases r with
  | ok b => exact hk b rfl
  | error e =>
    intro e' he
    cases he
    exact hr e rfl

theorem confined_mapM {l : List ι} {g : ι → Body κ α β} (h : ∀ i ∈ l, (g i).Confined F Q) :
    (l.mapM g).Confined F Q := by
  induction l with
  | nil => exact confined_pure
  | cons i l ih =>
    rw [List.mapM_cons]
    refine confined_bind (h i List.mem_cons_self) fun b => ?_
    exact confined_bind (ih fun j hj => h j (List.mem_cons_of_mem i hj)) fun bs => confined_pure

/-- A confined activation fails only as `F` says, if the calls with the property `Q` do. -/
theorem Confined.fails {x : Body κ α β} {e : Failure} (h : x.Confined F Q)
    (hcalls : ∀ followed c e, x.Calls followed c → Q c → f c = .error e → F e)
    (he : x.value f = .error e) : F e := by
  induction x with
  | ends r =>
    rw [value_ends] at he
    exact h e he
  | calls followed c next ih =>
    rcases bind_eq_error.1 he with he | ⟨a, -, he⟩
    · exact hcalls _ _ _ .here h.1 he
    · exact ih a (h.2 a) (fun _ _ _ hc => hcalls _ _ _ (.later hc)) he

end confined

end Body

/-! ## Enough depth -/

/-- All bounds from some bound on give the outcome `r`. -/
def Settles {α : Type} (g : Nat → Except Stop α) (r : Except Failure α) : Prop :=
  ∃ n, ∀ m, n ≤ m → g m = r.mapError .failed

namespace Settles

variable {ι α β : Type}

theorem const (r : Except Failure α) : Settles (fun _ => r.mapError .failed) r :=
  ⟨0, fun _ _ => rfl⟩

theorem bind {g : Nat → Except Stop α} {r : Except Failure α} {h : Nat → α → Except Stop β}
    {k : α → Except Failure β} (hg : Settles g r)
    (hk : ∀ a, r = .ok a → Settles (fun n => h n a) (k a)) :
    Settles (fun n => g n >>= h n) (r >>= k) := by
  obtain ⟨n, hn⟩ := hg
  cases r with
  | error e =>
    refine ⟨n, fun m hm => ?_⟩
    show (g m >>= h m) = _
    rw [hn m hm]
    rfl
  | ok a =>
    obtain ⟨n', hn'⟩ := hk a rfl
    -- Beyond both bounds the first part is settled, and then the second.
    refine ⟨max n n', fun m hm => ?_⟩
    show (g m >>= h m) = _
    rw [hn m (Nat.le_trans (Nat.le_max_left n n') hm)]
    exact hn' m (Nat.le_trans (Nat.le_max_right n n') hm)

theorem mapM {l : List ι} {g : Nat → ι → Except Stop α} {k : ι → Except Failure α}
    (h : ∀ i ∈ l, Settles (fun n => g n i) (k i)) : Settles (fun n => l.mapM (g n)) (l.mapM k) := by
  induction l with
  | nil => exact const (.ok [])
  | cons i l ih =>
    simp only [List.mapM_cons]
    refine bind (h i List.mem_cons_self) fun a ha => ?_
    refine bind (ih fun j hj => h j (List.mem_cons_of_mem i hj)) fun as has => ?_
    exact const (.ok (a :: as))

/-- An activation settles if its calls do. -/
theorem eval {κ : Type} {x : Body κ α β} {answer : Nat → Option String → κ → Except Stop α}
    {f : κ → Except Failure α}
    (h : ∀ followed c, x.Calls followed c → Settles (fun n => answer n followed c) (f c)) :
    Settles (fun n => x.eval .failed (answer n)) (x.value f) := by
  induction x with
  | ends r =>
    rw [Body.value_ends]
    exact const r
  | calls followed c next ih =>
    exact bind (h _ _ .here) fun a ha => ih a fun _ _ hc => h _ _ (.later hc)

end Settles

/-! ## Runs -/

namespace Recursion

variable {κ α : Type} {R : Recursion κ α} {f : κ → Except Failure α}

/-- The function `f` answers as its own calls do. -/
def Computes (R : Recursion κ α) (f : κ → Except Failure α) : Prop := ∀ c, f c = (R c).value f

/-- Carries a recursion out, with calls nested at most `n` deep.  The references in `path` are being
followed, and the run stops if one of them is followed again. -/
def run (R : Recursion κ α) : Nat → List String → κ → Except Stop α
  | 0, _, _ => .error .tooDeep
  | n + 1, path, c => (R c).eval .failed fun
    | none, c' => R.run n path c'
    | some ref, c' => if ref ∈ path then .error (.repeated ref) else R.run n (ref :: path) c'

/-- Calls get smaller, and remember in `seen` what they follow. -/
structure Guarded (R : Recursion κ α) (seen : κ → List String) (smaller : κ → κ → Prop) :
    Prop where
  /-- Calls cannot get smaller for ever. -/
  wellFounded : WellFounded smaller
  /-- Every call is smaller. -/
  decreases : ∀ {c followed c'}, (R c).Calls followed c' → smaller c' c
  /-- Nothing is forgotten. -/
  keeps : ∀ {c followed c'}, (R c).Calls followed c' → seen c ⊆ seen c'
  /-- A reference is followed only if it is not remembered, and is remembered from then on. -/
  fresh : ∀ {c ref c'}, (R c).Calls (some ref) c' → ref ∉ seen c ∧ ref ∈ seen c'

variable {seen : κ → List String} {smaller : κ → κ → Prop}

/-- A recursion is guarded by what holds of each of its calls. -/
theorem Guarded.of_calls (hwf : WellFounded smaller)
    (h : ∀ c followed c', (R c).Calls followed c' → smaller c' c ∧ seen c ⊆ seen c' ∧
      ∀ ref, followed = some ref → ref ∉ seen c ∧ ref ∈ seen c') : R.Guarded seen smaller where
  wellFounded := hwf
  decreases hc := (h _ _ _ hc).1
  keeps hc := (h _ _ _ hc).2.1
  fresh hc := (h _ _ _ hc).2.2 _ rfl

/-- A guarded recursion is carried out to its end, and no reference is followed while it is being
followed. -/
theorem settles (hf : R.Computes f) (hg : R.Guarded seen smaller) (c : κ) {path : List String}
    (hpath : path ⊆ seen c) : Settles (fun n => R.run n path c) (f c) := by
  -- The path stays inside what the call remembers, so nothing on it is followed again.
  induction c using hg.wellFounded.induction generalizing path with
  | _ c ih =>
    have hbody : Settles (fun n => (R c).eval .failed fun
        | none, c' => R.run n path c'
        | some ref, c' => if ref ∈ path then .error (.repeated ref) else R.run n (ref :: path) c')
        (f c) := by
      rw [hf c]
      refine Settles.eval fun followed c' hc => ?_
      have hkeep := List.Subset.trans hpath (hg.keeps hc)
      cases followed with
      | none => exact ih c' (hg.decreases hc) hkeep
      | some ref =>
        obtain ⟨hfresh, hseen⟩ := hg.fresh hc
        have hnot : ref ∉ path := fun h => hfresh (hpath h)
        simp only [if_neg hnot]
        exact ih c' (hg.decreases hc) (List.cons_subset.2 ⟨hseen, hkeep⟩)
    obtain ⟨n, hn⟩ := hbody
    refine ⟨n + 1, fun m hm => ?_⟩
    cases m with
    | zero => omega
    | succ m => exact hn m (by omega)

/-- A function that follows a reference for ever is stopped when it does so again. -/
example (n : Nat) : Recursion.run (fun _ => .call (some "#/a") () : Recursion Unit Nat) (n + 2) []
    () = .error (.repeated "#/a") := rfl

/-- What a run gives is what the function gives. -/
theorem run_refines (hf : R.Computes f) (n : Nat) (path : List String) (c : κ) :
    Refines (R.run n path c) (f c) := by
  induction n generalizing path c with
  | zero =>
    intro a h
    cases h
  | succ n ih =>
    rw [hf c]
    refine Body.eval_refines fun followed c' => ?_
    cases followed with
    | none => exact ih path c'
    | some ref =>
      dsimp only
      split
      · intro a h
        cases h
      · exact ih (ref :: path) c'

/-- A property of results that every activation passes on holds of all results. -/
theorem ensures (hf : R.Computes f) (hg : R.Guarded seen smaller) {Q : κ → α → Prop}
    (h : ∀ c, (R c).Ensures Q (Q c)) {c : κ} {a : α} (ha : f c = .ok a) : Q c a := by
  induction c using hg.wellFounded.induction generalizing a with
  | _ c ih =>
    rw [hf c] at ha
    exact (h c).holds (fun _ c' b hc hb => ih c' (hg.decreases hc) hb) ha

/-- Two functions agree on calls with a property, if they do the same there and call each other only
with it. -/
theorem agrees {R' : Recursion κ α} {f' : κ → Except Failure α} (hf : R.Computes f)
    (hf' : R'.Computes f') (hg : R.Guarded seen smaller) {Q : κ → Prop}
    (hbody : ∀ c, Q c → R' c = R c)
    (hcalls : ∀ c followed c', Q c → (R c).Calls followed c' → Q c') {c : κ} (hc : Q c) :
    f' c = f c := by
  induction c using hg.wellFounded.induction with
  | _ c ih =>
    rw [hf' c, hf c, hbody c hc]
    exact Body.value_congr fun followed c' hcall =>
      ih c' (hg.decreases hcall) (hcalls c followed c' hc hcall)

/-- If every activation with the property `Q` is confined, all that start there fail only as `F`
says. -/
theorem fails (hf : R.Computes f) (hg : R.Guarded seen smaller) {F : Failure → Prop}
    {Q : κ → Prop} (h : ∀ c, Q c → (R c).Confined F Q) {c : κ} {e : Failure} (hc : Q c)
    (he : f c = .error e) : F e := by
  induction c using hg.wellFounded.induction generalizing e with
  | _ c ih =>
    rw [hf c] at he
    exact (h c hc).fails (fun _ c' e' hcall hc' he' => ih c' (hg.decreases hcall) hc' he') he

end Recursion

end ClientPlan
