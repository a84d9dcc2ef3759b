import ClientPlan.Proofs.Outcome
import ClientPlan.Yaml.Value

/-!
# What all steps of building respect

A step of building changes what has been built, or fails.  A `Conduct` says which changes and which
failures are allowed; a step respects it whatever has been built before (`Build.Respects`).  The
steps of merging and of meeting nodes are put together from a few that change anything, so they
respect a conduct if these few do.
-/

set_option autoImplicit false

namespace ClientPlan.Yaml

/-- Which changes and which failures are allowed while a document is built. -/
structure Conduct where
  /-- What has been built may become this. -/
  Changes : Building → Building → Prop
  /-- With what has been built a step may fail so. -/
  Fails : Building → Fault → Prop
  /-- Nothing has to change. -/
  refl : ∀ b, Changes b b
  /-- Changes follow each other. -/
  trans : ∀ {b b' b''}, Changes b b' → Changes b' b'' → Changes b b''
  /-- A failure after a change is one of before. -/
  fails_of_changes : ∀ {b b' f}, Changes b b' → Fails b' f → Fails b f
  /-- A document may always turn out to be none. -/
  malformed : ∀ b, Fails b .malformed

namespace Build

/-- From what has been built, a step leads on as a conduct allows. -/
abbrev Leads {α : Type} (c : Conduct) (b : Building) : Except Fault (α × Building) → Prop :=
  Ends (fun r => c.Changes b r.2) (c.Fails b)

/-- Whatever has been built, a step leads on as a conduct allows. -/
def Respects {α : Type} (c : Conduct) (x : Build α) : Prop := ∀ b, Leads c b (x b)

theorem bind_eq_ok {α β : Type} {x : Build α} {f : α → Build β} {b : Building}
    {r : β × Building} :
    (x >>= f) b = .ok r ↔ ∃ a b₁, x b = .ok (a, b₁) ∧ f a b₁ = .ok r := by
  refine ClientPlan.bind_eq_ok.trans ⟨?_, ?_⟩
  · rintro ⟨⟨a, b₁⟩, hx, hf⟩
    exact ⟨a, b₁, hx, hf⟩
  · rintro ⟨a, b₁, hx, hf⟩
    exact ⟨⟨a, b₁⟩, hx, hf⟩

section

variable {α β : Type} {c : Conduct} {b b' : Building}

/-- After a step that leads on, a failure is one of before, and so is a change. -/
theorem Leads.of_changes {x : Except Fault (α × Building)} (h : Leads c b' x)
    (hb : c.Changes b b') : Leads c b x := by
  cases h with
  | ok h => exact .ok (c.trans hb h)
  | error h => exact .error (c.fails_of_changes hb h)

/-- A sequence of steps leads on if the first step does, and so do the others on what it gives. -/
theorem leads_bind {x : Build α} {f : α → Build β} (hx : Leads c b (x b))
    (hf : ∀ a b', x b = .ok (a, b') → Leads c b' (f a b')) : Leads c b ((x >>= f) b) :=
  Ends.bind hx fun r hr h => (hf r.1 r.2 hr).of_changes h

theorem respects_pure (a : α) : Respects c (pure a : Build α) := fun b => .ok (c.refl b)

theorem respects_fail : Respects c (fail .malformed : Build α) := fun b => .error (c.malformed b)

theorem respects_get : Respects c (get : Build Building) := fun b => .ok (c.refl b)

theorem Respects.bind {x : Build α} {f : α → Build β} (hx : Respects c x)
    (hf : ∀ a, Respects c (f a)) : Respects c (x >>= f) :=
  fun b => leads_bind (hx b) fun a b' _ => hf a b'

theorem respects_modify {f : Building → Building} (hf : ∀ b, c.Changes b (f b)) :
    Respects c (modify f) :=
  fun b => .ok (hf b)

theorem respects_forM {f : α → Build PUnit} {l : List α} (hf : ∀ a, Respects c (f a)) :
    Respects c (l.forM f) := by
  induction l with
  | nil => exact respects_pure _
  | cons a r ih => exact (hf a).bind fun _ => ih

theorem respects_mapM {f : α → Build β} {l : List α} (hf : ∀ a, Respects c (f a)) :
    Respects c (l.mapM f) := by
  induction l with
  | nil => exact respects_pure _
  | cons a r ih =>
    rw [List.mapM_cons]
    exact (hf a).bind fun _ => ih.bind fun _ => respects_pure _

theorem respects_foldlM {f : β → α → Build β} {l : List α} (hf : ∀ s a, Respects c (f s a))
    (s : β) : Respects c (l.foldlM f s) := by
  induction l generalizing s with
  | nil => exact respects_pure _
  | cons a r ih =>
    rw [List.foldlM_cons]
    exact (hf s a).bind ih

/-! ## Steps that change nothing -/

theorem respects_nodeAt (number : Nat) : Respects c (nodeAt number) :=
  respects_get.bind fun _ => respects_pure _

theorem respects_entriesOf (number : Nat) : Respects c (entriesOf number) := by
  refine (respects_nodeAt number).bind fun n => ?_
  cases n with
  | mapping tag entries => exact respects_pure _
  | _ => exact respects_fail

theorem respects_keyOf (number : Nat) : Respects c (keyOf number) := by
  refine respects_get.bind fun b => ?_
  split
  · exact respects_pure _
  · exact respects_fail

/-! ## Merging -/

section

variable (hsettle : ∀ number, Respects c (settleKey number))

include hsettle

theorem respects_nextMark (i : Nat) (entries : List (Nat × Nat)) :
    Respects c (nextMark i entries) := by
  induction entries generalizing i with
  | nil => exact respects_pure _
  | cons e r ih =>
    obtain ⟨k, v⟩ := e
    refine (respects_nodeAt k).bind fun key => ?_
    split
    · exact respects_pure _
    · exact (hsettle k).bind fun _ => ih (i + 1)

variable (hentries : ∀ number entries, Respects c (setEntries number entries))

include hentries

theorem respects_mergeFrom (marks number i : Nat) (merged : List (Nat × Nat)) :
    Respects c (mergeFrom marks number i merged) := by
  -- Each mark that is followed is taken away before, so the induction is on their number.
  induction marks generalizing number i merged with
  | zero =>
    rw [mergeFrom]
    refine (respects_entriesOf number).bind fun entries => ?_
    refine (respects_nextMark hsettle i _).bind fun found => ?_
    cases found with
    | none => exact hentries _ _
    | some mark => exact respects_fail
  | succ marks ih =>
    rw [mergeFrom]
    refine (respects_entriesOf number).bind fun entries => ?_
    refine (respects_nextMark hsettle i _).bind fun found => ?_
    match found with
    | none => exact hentries _ _
    | some (j, v) =>
      refine (hentries _ _).bind fun _ => (respects_nodeAt v).bind fun n => ?_
      cases n with
      | mapping tag entries =>
        exact (ih v 0 []).bind fun _ => (respects_entriesOf v).bind fun _ => ih number j _
      | sequence tag items =>
        have hitem (n : Nat) : Respects c (do
            discard (entriesOf n)
            mergeFrom marks n 0 []
            entriesOf n) :=
          ((respects_entriesOf n).bind fun _ => respects_pure _).bind fun _ =>
            (ih n 0 []).bind fun _ => respects_entriesOf n
        exact (respects_mapM hitem).bind fun _ => ih number j _
      | scalar tag text => exact respects_fail

theorem respects_merge (number : Nat) : Respects c (merge number) :=
  respects_get.bind fun _ => respects_mergeFrom hsettle hentries _ _ _ _

end

/-! ## Meeting nodes -/

section

variable (hmeet : ∀ number, Respects c (meet number))

include hmeet

theorem respects_entriesIn (entries : List (Nat × Nat)) : Respects c (entriesIn entries) := by
  refine (respects_foldlM (fun known e => ?_) []).bind fun _ => respects_pure _
  exact (hmeet e.1).bind fun _ => (respects_keyOf e.1).bind fun _ => (hmeet e.2).bind fun _ =>
    respects_pure _

theorem respects_pairOf (number : Nat) : Respects c (pairOf number) := by
  refine (respects_entriesOf number).bind fun entries => ?_
  match entries with
  | [(k, v)] => exact (hmeet k).bind fun _ => (hmeet v).bind fun _ => respects_pure _
  | [] | _ :: _ :: _ => exact respects_fail

end

end

end Build

end ClientPlan.Yaml
