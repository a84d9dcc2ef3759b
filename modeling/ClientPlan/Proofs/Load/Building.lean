import ClientPlan.Proofs.Document.Shape
import ClientPlan.Proofs.Load.Respecting

/-!
# Building collections

While a YAML document is built, a node that has become a scalar stays that scalar, and a collection
stays a collection (`Grows`).  A mapping is filled only with entries whose key nodes have become
scalars, and no two of them the same text (`KeysApart`).  So all that has been built is keyed by
scalars (`Building.Sound`), whatever the nodes are and however they share their parts.
-/

set_option autoImplicit false

namespace ClientPlan

namespace Yaml

/-- The value of a scalar is no collection. -/
theorem isScalar_of_scalarValue {tag : Tag} {text : String} {v : Value}
    (h : scalarValue tag text = .ok v) : v.isScalar = true := by
  cases tag with
  | null => cases h; rfl
  | str => cases h; rfl
  | bool =>
    obtain ⟨b, -, hb⟩ := bind_eq_ok.1 h
    cases hb
    rfl
  | int =>
    obtain ⟨n, -, hn⟩ := bind_eq_ok.1 h
    cases hn
    rfl
  | float =>
    obtain ⟨x, -, hx⟩ := bind_eq_ok.1 h
    cases hx
    rfl
  | binary =>
    obtain ⟨l, -, hl⟩ := bind_eq_ok.1 h
    cases hl
    rfl
  | timestamp =>
    replace h : calendarValue text.toList = .ok v := h
    unfold calendarValue at h
    split at h
    · cases h
    · split at h <;> cases h
      rfl
    · dsimp only at h
      split at h <;> cases h
      rfl
  | _ => cases h

/-! ## What nodes have become -/

/-- The scalar that a node has become. -/
def Made.scalar? : Made → Option Value
  | scalar v _ => some v
  | _ => none

/-- The scalar that the node with a number has become. -/
def scalarAt? (made : Array (Option Made)) (number : Nat) : Option Value :=
  (made.getD number none).bind Made.scalar?

/-- A node is no scalar and never will be one. -/
def Collected (made : Array (Option Made)) (number : Nat) : Prop :=
  made[number]? ≠ some none ∧ scalarAt? made number = none

/-- The keys of some entries have become scalars, and no two of them the same text. -/
structure KeysApart (made : Array (Option Made)) (entries : List (Nat × Nat)) : Prop where
  /-- The keys are scalars. -/
  scalar : ∀ e ∈ entries, ∃ v, scalarAt? made e.1 = some v
  /-- No text is a key twice. -/
  apart : entries.Pairwise fun e e' => ∀ s : String,
    scalarAt? made e.1 = some (.str s) → scalarAt? made e'.1 ≠ some (.str s)

/-- What a node has become has scalars in the places of keys. -/
def Made.Keyed (made : Array (Option Made)) : Made → Prop
  | scalar v _ => v.isScalar = true
  | map entries => KeysApart made entries
  | set members => ∀ n ∈ members, ∃ v, scalarAt? made n = some v
  | _ => True

/-- More nodes have been met: scalars are the same, and what was no scalar is none. -/
structure Grows (made made' : Array (Option Made)) : Prop where
  /-- Scalars are the same. -/
  scalar : ∀ {n v}, scalarAt? made n = some v → scalarAt? made' n = some v
  /-- What was no scalar is none. -/
  collected : ∀ {n}, Collected made n → Collected made' n

section

variable {made made' : Array (Option Made)} {number : Nat} {m : Made}

theorem KeysApart.grow {entries : List (Nat × Nat)} (h : KeysApart made entries)
    (hg : Grows made made') : KeysApart made' entries where
  scalar e he := (h.scalar e he).imp fun _ hv => hg.scalar hv
  apart := by
    refine h.apart.imp_of_mem fun {e e'} he he' hapart s hs hs' => ?_
    obtain ⟨v, hv⟩ := h.scalar e he
    obtain ⟨v', hv'⟩ := h.scalar e' he'
    cases (hg.scalar hv).symm.trans hs
    cases (hg.scalar hv').symm.trans hs'
    exact hapart s hv hv'

theorem Made.Keyed.grow (h : m.Keyed made) (hg : Grows made made') : m.Keyed made' := by
  cases m with
  | scalar v identity => exact h
  | map entries => exact KeysApart.grow h hg
  | set members => exact fun n hn => (h n hn).imp fun _ hv => hg.scalar hv
  | _ => trivial

theorem scalarAt?_set_self (hb : number < made.size) :
    scalarAt? (made.setIfInBounds number (some m)) number = m.scalar? := by
  rw [scalarAt?, Array.getD_eq_getD_getElem?, Array.getElem?_setIfInBounds_self_of_lt hb]
  rfl

theorem scalarAt?_set_ne {n : Nat} (hn : number ≠ n) :
    scalarAt? (made.setIfInBounds number (some m)) n = scalarAt? made n := by
  rw [scalarAt?, scalarAt?, Array.getD_eq_getD_getElem?, Array.getElem?_setIfInBounds_ne hn,
    ← Array.getD_eq_getD_getElem?]

theorem collected_set (hm : m.scalar? = none) :
    Collected (made.setIfInBounds number (some m)) number := by
  by_cases hb : number < made.size
  · rw [Collected, scalarAt?_set_self hb, Array.getElem?_setIfInBounds_self_of_lt hb]
    exact ⟨by simp, hm⟩
  · have hsize := Nat.le_of_not_lt hb
    rw [Array.setIfInBounds_eq_of_size_le hsize, Collected, scalarAt?,
      Array.getD_eq_getD_getElem?, Array.getElem?_eq_none hsize]
    exact ⟨by simp, rfl⟩

/-- A node that is no scalar becomes something, and a scalar only if it has not been met. -/
theorem grows_set (hfree : scalarAt? made number = none)
    (hm : number < made.size → Collected made number → m.scalar? = none) :
    Grows made (made.setIfInBounds number (some m)) := by
  by_cases hb : number < made.size
  · constructor
    · intro n v hv
      by_cases hn : number = n
      · rw [hn, hv] at hfree
        cases hfree
      · rw [scalarAt?_set_ne hn]
        exact hv
    · intro n hcollected
      by_cases hn : number = n
      · subst hn
        exact collected_set (hm hb hcollected)
      · rw [Collected, scalarAt?_set_ne hn, Array.getElem?_setIfInBounds_ne hn]
        exact hcollected
  · rw [Array.setIfInBounds_eq_of_size_le (Nat.le_of_not_lt hb)]
    exact ⟨id, id⟩

end

/-! ## Sound steps -/

/-- All that has been built is keyed by scalars, and what waits is no scalar. -/
structure Building.Sound (b : Building) : Prop where
  /-- What has been built is keyed by scalars. -/
  keyed : ∀ {n : Nat} {m : Made}, b.made[n]? = some (some m) → m.Keyed b.made
  /-- What waits is no scalar. -/
  waiting : ∀ n ∈ b.waiting, Collected b.made n

/-- More has been built, and it is sound if what was there is. -/
structure Advances (b b' : Building) : Prop where
  /-- More nodes have been met. -/
  grows : Grows b.made b'.made
  /-- What has been built is sound. -/
  sound : b.Sound → b'.Sound

theorem Advances.refl (b : Building) : Advances b b := ⟨⟨id, id⟩, id⟩

theorem Advances.trans {b b' b'' : Building} (h : Advances b b') (h' : Advances b' b'') :
    Advances b b'' where
  grows := ⟨fun hv => h'.grows.scalar (h.grows.scalar hv),
    fun hn => h'.grows.collected (h.grows.collected hn)⟩
  sound hs := h'.sound (h.sound hs)

/-- A node becomes what is keyed by scalars. -/
theorem advances_set {b : Building} {number : Nat} {m : Made} (hm : b.Sound → m.Keyed b.made)
    (hg : Grows b.made (b.made.setIfInBounds number (some m))) :
    Advances b { b with made := b.made.setIfInBounds number (some m) } := by
  refine ⟨hg, fun hs => ⟨?_, fun n hn => hg.collected (hs.waiting n hn)⟩⟩
  intro n m' hn
  replace hn : (b.made.setIfInBounds number (some m))[n]? = some (some m') := hn
  rw [Array.getElem?_setIfInBounds] at hn
  split at hn
  · split at hn
    · cases hn
      exact (hm hs).grow hg
    · cases hn
  · exact (hs.keyed hn).grow hg

/-- More and more is built, and it stays sound. -/
def advancing : Conduct where
  Changes := Advances
  Fails _ _ := True
  refl := Advances.refl
  trans := Advances.trans
  fails_of_changes _ _ := trivial
  malformed _ := trivial

namespace Build

section

variable {α β : Type} {b b' : Building}

theorem advances_of_eq_ok {x : Build α} {a : α} (hx : Respects advancing x)
    (h : x b = .ok (a, b')) : Advances b b' := by
  have hends := hx b
  rw [h] at hends
  cases hends with
  | ok hto => exact hto

/-- A step whose results lead on may fail as it likes. -/
theorem respects_of_advances {x : Build α}
    (h : ∀ b a b', x b = .ok (a, b') → Advances b b') : Respects advancing x := by
  intro b
  cases hx : x b with
  | ok r => exact .ok (h b r.1 r.2 hx)
  | error f => exact .error trivial

theorem advances_setNode (number : Nat) (n : Node) : Respects advancing (setNode number n) :=
  respects_modify fun _ => ⟨⟨id, id⟩, fun hs => ⟨hs.keyed, hs.waiting⟩⟩

theorem advances_setEntries (number : Nat) (entries : List (Nat × Nat)) :
    Respects advancing (setEntries number entries) := by
  refine (respects_nodeAt number).bind fun n => ?_
  cases n with
  | mapping tag old => exact advances_setNode number _
  | _ => exact respects_pure _

theorem advances_settleKey (number : Nat) : Respects advancing (settleKey number) := by
  refine (respects_nodeAt number).bind fun n => ?_
  split
  · exact advances_setNode number _
  · exact respects_pure _

/-! ## Meeting nodes -/

theorem eq_of_textOf {fuel : Nat} {n : Node} {text : String}
    (h : textOf fuel n b = .ok (text, b')) : b' = b := by
  induction fuel generalizing n with
  | zero => cases h
  | succ fuel ih =>
    cases n with
    | scalar tag text =>
      cases h
      rfl
    | sequence tag items => cases h
    | mapping tag entries =>
      obtain ⟨b₁, b₂, hget, h⟩ := bind_eq_ok.1 h
      cases hget
      generalize List.find? _ entries = found at h
      cases found with
      | some e => exact ih h
      | none => cases h

/-- The value of a node with the tag of a scalar is one, and nothing else happens. -/
theorem eq_of_scalarOf {number : Nat} {m : Made} (h : scalarOf number b = .ok (m, b')) :
    b' = b ∧ ∃ v identity, m = .scalar v identity ∧ v.isScalar = true := by
  obtain ⟨n, b₁, hn, h⟩ := bind_eq_ok.1 h
  cases hn
  obtain ⟨b₁, b₂, hget, h⟩ := bind_eq_ok.1 h
  cases hget
  obtain ⟨text, b₂, htext, h⟩ := bind_eq_ok.1 h
  cases eq_of_textOf htext
  generalize b.nodes.getD number .empty = n at h
  have hvalue : (do
      let v ← (scalarValue n.tag text : Build Value)
      return Made.scalar v (if isNanWord text then none else some number)) b = .ok (m, b') := by
    generalize n.tag = tag at h ⊢
    cases tag with
    | timestamp =>
      cases n with
      | mapping tag entries => cases h
      | _ => exact h
    | _ => exact h
  obtain ⟨v, b₂, hv, h⟩ := bind_eq_ok.1 hvalue
  cases h
  obtain ⟨v', hv', heq⟩ := ClientPlan.bind_eq_ok.1 hv
  cases heq
  exact ⟨rfl, v, _, rfl, isScalar_of_scalarValue hv'⟩

theorem advances_meet (number : Nat) : Respects advancing (meet number) := by
  refine respects_of_advances fun b a b' h => ?_
  obtain ⟨b₁, b₂, hget, h⟩ := bind_eq_ok.1 h
  cases hget
  cases hmade : b.made.getD number none with
  | some m =>
    rw [hmade] at h
    cases h
    exact .refl b
  | none =>
    rw [hmade] at h
    obtain ⟨n, b₂, hn, h⟩ := bind_eq_ok.1 h
    cases hn
    have hfree : scalarAt? b.made number = none := by rw [scalarAt?, hmade]; rfl
    have hunmet : number < b.made.size → ¬ Collected b.made number := fun hb hc => by
      rw [Array.getD_eq_getD_getElem?, Array.getElem?_eq_getElem hb, Option.getD_some] at hmade
      exact hc.1 (by rw [Array.getElem?_eq_getElem hb, hmade])
    have hset : ∀ m : Made, m.Keyed b.made →
        Advances b { b with made := b.made.setIfInBounds number (some m) } := fun m hm =>
      advances_set (fun _ => hm) (grows_set hfree fun hb hc => absurd hc (hunmet hb))
    split at h
    · obtain ⟨u, b₂, hmark, h⟩ := bind_eq_ok.1 h
      cases hmark
      cases h
      refine (hset .waiting trivial).trans ⟨⟨id, id⟩, fun hs => ⟨hs.keyed, ?_⟩⟩
      exact List.forall_mem_cons.2 ⟨collected_set rfl, hs.waiting⟩
    · obtain ⟨m, b₂, hm, h⟩ := bind_eq_ok.1 h
      obtain ⟨rfl, v, identity, rfl, hv⟩ := eq_of_scalarOf hm
      cases h
      exact hset _ hv

/-! ## Filling collections -/

theorem scalarAt?_of_keyOf {number : Nat} {key : Value × Option Nat}
    (h : keyOf number b = .ok (key, b')) : b' = b ∧ scalarAt? b.made number = some key.1 := by
  obtain ⟨b₁, b₂, hget, h⟩ := bind_eq_ok.1 h
  cases hget
  rw [scalarAt?]
  generalize b.made.getD number none = m at h ⊢
  match m with
  | some (.scalar v identity) =>
    cases h
    exact ⟨rfl, rfl⟩
  | none | some .waiting | some (.list _) | some (.map _) | some (.set _) | some (.pairs _) =>
    cases h

/-- Entries that have been met with the scalars that their keys are, no two of them the same key. -/
structure Known (made : Array (Option Made))
    (known : List ((Value × Option Nat) × Nat × Nat)) : Prop where
  /-- The keys are these scalars. -/
  scalar : ∀ e ∈ known, scalarAt? made e.2.1 = some e.1.1
  /-- No two are the same key. -/
  apart : known.Pairwise fun e e' => isSameKey e.1 e'.1 = false

variable {made made' : Array (Option Made)}

theorem Known.grow {known : List ((Value × Option Nat) × Nat × Nat)} (h : Known made known)
    (hg : Grows made made') : Known made' known :=
  ⟨fun e he => hg.scalar (h.scalar e he), h.apart⟩

theorem mem_addEntry {key : Value × Option Nat} {entry : Nat × Nat}
    {known : List ((Value × Option Nat) × Nat × Nat)} {e : (Value × Option Nat) × Nat × Nat}
    (h : e ∈ addEntry key entry known) :
    e = (key, entry) ∨ ∃ e' ∈ known, e.1 = e'.1 ∧ e.2.1 = e'.2.1 := by
  induction known with
  | nil => exact .inl (List.mem_singleton.1 h)
  | cons e' r ih =>
    rw [addEntry] at h
    split at h
    · rcases List.mem_cons.1 h with rfl | h
      · exact .inr ⟨e', List.mem_cons_self, rfl, rfl⟩
      · exact .inr ⟨e, List.mem_cons_of_mem _ h, rfl, rfl⟩
    · rcases List.mem_cons.1 h with rfl | h
      · exact .inr ⟨e, List.mem_cons_self, rfl, rfl⟩
      · refine (ih h).imp_right ?_
        rintro ⟨e'', he, heq⟩
        exact ⟨e'', List.mem_cons_of_mem _ he, heq⟩

theorem apart_addEntry {key : Value × Option Nat} {entry : Nat × Nat}
    {known : List ((Value × Option Nat) × Nat × Nat)}
    (h : known.Pairwise fun e e' => isSameKey e.1 e'.1 = false) :
    (addEntry key entry known).Pairwise fun e e' => isSameKey e.1 e'.1 = false := by
  induction known with
  | nil => exact List.pairwise_singleton _ _
  | cons e' r ih =>
    obtain ⟨hfirst, hrest⟩ := List.pairwise_cons.1 h
    rw [addEntry]
    split
    · exact List.pairwise_cons.2 ⟨hfirst, hrest⟩
    · next hkey =>
      refine List.pairwise_cons.2 ⟨fun e he => ?_, ih hrest⟩
      rcases mem_addEntry he with rfl | ⟨e'', he, heq, -⟩
      · exact Bool.eq_false_iff.2 hkey
      · rw [heq]
        exact hfirst e'' he

/-- The entries of a mapping are known with one more entry, whose key is a scalar. -/
theorem Known.addEntry {known : List ((Value × Option Nat) × Nat × Nat)} (h : Known made known)
    {key : Value × Option Nat} {entry : Nat × Nat} (hk : scalarAt? made entry.1 = some key.1) :
    Known made (Build.addEntry key entry known) := by
  refine ⟨fun e he => ?_, apart_addEntry h.apart⟩
  rcases mem_addEntry he with rfl | ⟨e', he, hkey, hentry⟩
  · exact hk
  · rw [hkey, hentry]
    exact h.scalar e' he

theorem Known.keysApart {known : List ((Value × Option Nat) × Nat × Nat)} (h : Known made known) :
    KeysApart made (known.map Prod.snd) := by
  refine ⟨fun e he => ?_, List.pairwise_map.2 ?_⟩
  · obtain ⟨e', he', rfl⟩ := List.mem_map.1 he
    exact ⟨_, h.scalar e' he'⟩
  · refine h.apart.imp_of_mem fun {e e'} he he' hapart s hs hs' => ?_
    rw [h.scalar e he, Option.some_inj] at hs
    rw [h.scalar e' he', Option.some_inj] at hs'
    rw [isSameKey, hs, hs'] at hapart
    simp [Value.agrees] at hapart

/-- What a step keeps, a run of steps over a list keeps. -/
theorem foldlM_keeps {P : β → Building → Prop} {f : β → α → Build β} {l : List α}
    (hf : ∀ {s a b s' b'}, P s b → f s a b = .ok (s', b') → Advances b b' ∧ P s' b') {s s' : β}
    (h : P s b) (hrun : l.foldlM f s b = .ok (s', b')) : Advances b b' ∧ P s' b' := by
  induction l generalizing s b with
  | nil =>
    cases hrun
    exact ⟨.refl _, h⟩
  | cons a r ih =>
    rw [List.foldlM_cons] at hrun
    obtain ⟨s₁, b₁, hstep, hrun⟩ := bind_eq_ok.1 hrun
    obtain ⟨hto, hnext⟩ := hf h hstep
    obtain ⟨hto', hlast⟩ := ih hnext hrun
    exact ⟨hto.trans hto', hlast⟩

/-- The entries of a mapping have scalars as keys, and no two of them the same text. -/
theorem keysApart_of_entriesIn {entries l : List (Nat × Nat)}
    (h : entriesIn entries b = .ok (l, b')) : Advances b b' ∧ KeysApart b'.made l := by
  obtain ⟨known, b₁, hfold, h⟩ := bind_eq_ok.1 h
  cases h
  have hstart : Known b.made [] := ⟨fun _ he => absurd he List.not_mem_nil, .nil⟩
  refine (foldlM_keeps (P := fun known b => Known b.made known) ?_ hstart hfold).imp_right
    Known.keysApart
  rintro known ⟨k, v⟩ b known' b' hknown hstep
  obtain ⟨u, b₁, hmeet, hafter⟩ := bind_eq_ok.1 hstep
  obtain ⟨key, b₂, hkey, hlast⟩ := bind_eq_ok.1 hafter
  obtain ⟨rfl, hscalar⟩ := scalarAt?_of_keyOf hkey
  obtain ⟨u', b₃, hmeet', hdone⟩ := bind_eq_ok.1 hlast
  cases hdone
  have hto := advances_of_eq_ok (advances_meet k) hmeet
  have hto' := advances_of_eq_ok (advances_meet v) hmeet'
  exact ⟨hto.trans hto', (hknown.grow (hto.trans hto').grows).addEntry (hto'.grows.scalar hscalar)⟩

/-- A step leads on only if a node is a collection. -/
def AdvancesAt {α : Type} (number : Nat) (x : Build α) : Prop :=
  ∀ (b : Building) (a : α) (b' : Building), Collected b.made number → x b = .ok (a, b') →
    Advances b b'

theorem advancesAt_bind {number : Nat} {x : Build α} {f : α → Build β} (hx : Respects advancing x)
    (hf : ∀ a, AdvancesAt number (f a)) : AdvancesAt number (x >>= f) := by
  intro b r b' hc h
  obtain ⟨a, b₁, ha, h⟩ := bind_eq_ok.1 h
  have hto := advances_of_eq_ok hx ha
  exact hto.trans (hf a _ _ _ (hto.grows.collected hc) h)

/-- A collection becomes what is keyed by scalars. -/
theorem advances_setMade {number : Nat} (m : Made) (hc : Collected b.made number)
    (hs : m.scalar? = none) (hm : m.Keyed b.made) (h : setMade number m b = .ok ((), b')) :
    Advances b b' := by
  cases h
  exact advances_set (fun _ => hm) (grows_set hc.2 fun _ _ => hs)

/-- A collection of entries becomes what holds them, keyed by scalars. -/
theorem advancesAt_ofEntries {number : Nat} {f : List (Nat × Nat) → Made}
    (hs : ∀ entries, (f entries).scalar? = none)
    (hm : ∀ {made entries}, KeysApart made entries → (f entries).Keyed made) :
    AdvancesAt number (do
      merge number
      setMade number (f (← entriesIn (← entriesOf number)))) := by
  refine advancesAt_bind (respects_merge advances_settleKey advances_setEntries number) fun _ =>
    advancesAt_bind (respects_entriesOf number) ?_
  intro entries b a b' hc h
  obtain ⟨l, b₁, hentries, h⟩ := bind_eq_ok.1 h
  obtain ⟨hto, hkeys⟩ := keysApart_of_entriesIn hentries
  exact hto.trans (advances_setMade (f l) (hto.grows.collected hc) (hs l) (hm hkeys) h)

/-- A collection is filled. -/
theorem advancesAt_fill (number : Nat) : AdvancesAt number (fill number) := by
  refine advancesAt_bind (respects_nodeAt number) fun n => ?_
  split
  · exact advancesAt_bind (respects_forM advances_meet) fun _ b _ b' hc h =>
      advances_setMade (.list _) hc rfl trivial h
  · exact advancesAt_bind (respects_mapM (respects_pairOf advances_meet)) fun _ b _ b' hc h =>
      advances_setMade (.pairs _) hc rfl trivial h
  · exact advancesAt_bind (respects_mapM (respects_pairOf advances_meet)) fun _ b _ b' hc h =>
      advances_setMade (.pairs _) hc rfl trivial h
  · exact advancesAt_ofEntries (f := Made.map) (fun _ => rfl) id
  · refine advancesAt_ofEntries (f := fun entries => Made.set (entries.map Prod.fst)) (fun _ => rfl) ?_
    intro made entries h n hn
    obtain ⟨e, he, rfl⟩ := List.mem_map.1 hn
    exact h.scalar e he
  · exact fun b a b' _ h => advances_of_eq_ok respects_fail h

/-- The collections of a list are filled. -/
theorem advances_forM_fill {l : List Nat} (hc : ∀ n ∈ l, Collected b.made n)
    (h : l.forM fill b = .ok ((), b')) : Advances b b' := by
  induction l generalizing b with
  | nil =>
    cases h
    exact .refl _
  | cons n r ih =>
    obtain ⟨hn, hr⟩ := List.forall_mem_cons.1 hc
    obtain ⟨u, b₁, hfill, h⟩ := bind_eq_ok.1 h
    have hto := advancesAt_fill n _ _ _ hn hfill
    exact hto.trans (ih (fun m hm => hto.grows.collected (hr m hm)) h)

/-- Filling all collections that wait leaves what has been built sound. -/
theorem sound_of_fillAll {n : Nat} (hs : b.Sound) (h : fillAll n b = .ok ((), b')) : b'.Sound := by
  induction n generalizing b with
  | zero =>
    cases h
    exact hs
  | succ n ih =>
    obtain ⟨b₁, b₂, hget, h⟩ := bind_eq_ok.1 h
    cases hget
    obtain ⟨u, b₂, htake, h⟩ := bind_eq_ok.1 h
    cases htake
    obtain ⟨u, b₂, hfill, h⟩ := bind_eq_ok.1 h
    have hc : ∀ m ∈ b.waiting.reverse, Collected b.made m :=
      fun m hm => hs.waiting m (List.mem_reverse.1 hm)
    have hto := advances_forM_fill (b := { b with waiting := [] }) hc hfill
    exact ih (hto.sound ⟨hs.keyed, fun m hm => absurd hm List.not_mem_nil⟩) h

end

end Build

end Yaml

end ClientPlan
