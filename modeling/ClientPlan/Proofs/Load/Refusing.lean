import ClientPlan.Proofs.Load.Building

/-!
# Scalars that cannot be read

While a document is built, its nodes stay what they are, but for the entries of mappings and for
marks of default values that become texts (`Node.Becomes`).  So where building ends with a scalar that
cannot be read, there is a node of the document whose tag does not fit to its text
(`Graph.refuses_of_value`).
-/

set_option autoImplicit false

namespace ClientPlan.Yaml

/-! ## Scalars -/

/-- What can be wrong with a scalar. -/
def scalarFaults : List Malformed :=
  [.badScalar, .emptyScalar, .hugeUnit, .hugeCode, .unknownWord, .noMoment, .mappedMoment, .tooDeep]

theorem mem_scalarFaults_of_integer {s : List Char} {m : Malformed}
    (h : integer s = .error (.scalar m)) : m ∈ scalarFaults := by
  unfold integer at h
  dsimp only at h
  split at h
  · cases h
    decide
  · split at h <;> cases h
    decide

theorem mem_scalarFaults_of_unsignedDouble {s : List Char} {m : Malformed}
    (h : unsignedDouble s = .error (.scalar m)) : m ∈ scalarFaults := by
  unfold unsignedDouble sexagesimalDouble at h
  repeat' split at h
  all_goals cases h
  all_goals decide

theorem mem_scalarFaults_of_double {s : List Char} {m : Malformed}
    (h : double s = .error (.scalar m)) : m ∈ scalarFaults := by
  unfold double at h
  split at h
  · cases h
    decide
  · rcases bind_eq_error.1 h with h | ⟨x, -, h⟩
    · exact mem_scalarFaults_of_unsignedDouble h
    · cases h

theorem mem_scalarFaults_of_calendarValue {s : List Char} {m : Malformed}
    (h : calendarValue s = .error (.scalar m)) : m ∈ scalarFaults := by
  unfold calendarValue at h
  dsimp only at h
  repeat' split at h
  all_goals cases h
  all_goals decide

theorem mem_scalarFaults_of_scalarValue {tag : Tag} {text : String} {m : Malformed}
    (h : scalarValue tag text = .error (.scalar m)) : m ∈ scalarFaults := by
  cases tag with
  | bool =>
    rcases bind_eq_error.1 h with h | ⟨b, -, h⟩
    · unfold truthValue at h
      dsimp only at h
      repeat' split at h
      all_goals cases h
      decide
    · cases h
  | int =>
    rcases bind_eq_error.1 h with h | ⟨n, -, h⟩
    · exact mem_scalarFaults_of_integer h
    · cases h
  | float =>
    rcases bind_eq_error.1 h with h | ⟨x, -, h⟩
    · exact mem_scalarFaults_of_double h
    · cases h
  | timestamp => exact mem_scalarFaults_of_calendarValue h
  | binary =>
    rcases bind_eq_error.1 h with h | ⟨l, -, h⟩
    · unfold octets at h
      repeat' split at h
      all_goals cases h
    · cases h
  | _ => cases h

/-! ## Nodes -/

/-- The text of one of some nodes, or of a node that is left out. -/
def IsText (nodes : Array Node) (text : String) : Prop :=
  ∃ number tag, nodes.getD number .empty = .scalar tag text

/-- A node whose tag does not fit to its text, which is what is wrong with it.  The text of a mapping
is that of another node, its default value, if mappings do not stand for each other in a circle. -/
inductive Node.Refuses (nodes : Array Node) : Malformed → Node → Prop where
  | scalar {m : Malformed} {tag : Tag} {text : String}
    (h : scalarValue tag text = .error (.scalar m)) : Refuses nodes m (.scalar tag text)
  | mapping {m : Malformed} {tag : Tag} {entries : List (Nat × Nat)} {text : String}
    (ht : IsText nodes text) (h : scalarValue tag text = .error (.scalar m)) :
    Refuses nodes m (.mapping tag entries)
  /-- Moments are no mappings. -/
  | moment {entries : List (Nat × Nat)} : Refuses nodes .mappedMoment (.mapping .timestamp entries)
  /-- A mapping may be a default value of its own. -/
  | circle {tag : Tag} {entries : List (Nat × Nat)} (ht : Build.isCollection tag = false) :
    Refuses nodes .tooDeep (.mapping tag entries)

/-- One of some nodes has a tag that does not fit to its text. -/
def Refused (nodes : Array Node) (m : Malformed) : Prop :=
  ∃ number, (nodes.getD number .empty).Refuses nodes m

theorem Node.Refuses.mem_scalarFaults {nodes : Array Node} {m : Malformed} {n : Node}
    (h : n.Refuses nodes m) : m ∈ scalarFaults := by
  cases h with
  | scalar h => exact mem_scalarFaults_of_scalarValue h
  | mapping ht h => exact mem_scalarFaults_of_scalarValue h
  | moment => decide
  | circle ht => decide

/-- Nothing is wrong with a node that is left out. -/
theorem Refused.exists_mem {nodes : Array Node} {m : Malformed} (h : Refused nodes m) :
    ∃ n ∈ nodes, n.Refuses nodes m := by
  obtain ⟨number, h⟩ := h
  rw [Array.getD_eq_getD_getElem?] at h
  cases hn : nodes[number]? with
  | some n =>
    rw [hn] at h
    exact ⟨n, Array.mem_of_getElem? hn, h⟩
  | none =>
    rw [hn] at h
    cases h with
    | scalar h => cases h

/-- What merging may make of a node: a mapping gets other entries, and a mark of a default value
becomes a text. -/
inductive Node.Becomes : Node → Node → Prop where
  | scalar {t t' : Tag} (h : t' = t ∨ t = .value ∧ t' = .str) (text : String) :
    Becomes (.scalar t text) (.scalar t' text)
  | sequence {t t' : Tag} (h : t' = t ∨ t = .value ∧ t' = .str) (items : List Nat) :
    Becomes (.sequence t items) (.sequence t' items)
  | mapping {t t' : Tag} (h : t' = t ∨ t = .value ∧ t' = .str) (entries entries' : List (Nat × Nat)) :
    Becomes (.mapping t entries) (.mapping t' entries')

namespace Node.Becomes

theorem refl (n : Node) : n.Becomes n := by
  cases n with
  | scalar t text => exact .scalar (.inl rfl) text
  | sequence t items => exact .sequence (.inl rfl) items
  | mapping t entries => exact .mapping (.inl rfl) entries entries

/-- A mark becomes a text at most once. -/
theorem tag_trans {t t' t'' : Tag} (h : t' = t ∨ t = .value ∧ t' = .str)
    (h' : t'' = t' ∨ t' = .value ∧ t'' = .str) : t'' = t ∨ t = .value ∧ t'' = .str := by
  rcases h' with rfl | ⟨rfl, rfl⟩
  · exact h
  · rcases h with rfl | ⟨-, h⟩
    · exact .inr ⟨rfl, rfl⟩
    · cases h

theorem trans {n n' n'' : Node} (h : n.Becomes n') (h' : n'.Becomes n'') : n.Becomes n'' := by
  cases h with
  | scalar ht text =>
    cases h' with
    | scalar ht' _ => exact .scalar (tag_trans ht ht') text
  | sequence ht items =>
    cases h' with
    | sequence ht' _ => exact .sequence (tag_trans ht ht') items
  | mapping ht entries entries' =>
    cases h' with
    | mapping ht' _ entries'' => exact .mapping (tag_trans ht ht') entries entries''

theorem retag {n : Node} (h : n.tag = .value) : n.Becomes (Build.retag .str n) := by
  cases n with
  | scalar t text => exact .scalar (.inr ⟨h, rfl⟩) text
  | sequence t items => exact .sequence (.inr ⟨h, rfl⟩) items
  | mapping t entries => exact .mapping (.inr ⟨h, rfl⟩) entries entries

end Node.Becomes

/-- All nodes are what merging may have made of the nodes that were there. -/
def Follows (b b' : Building) : Prop :=
  ∀ number, (b.nodes.getD number .empty).Becomes (b'.nodes.getD number .empty)

section

variable {b b' : Building} {text : String} {m : Malformed}

theorem Follows.isText (h : Follows b b') (ht : IsText b'.nodes text) : IsText b.nodes text := by
  obtain ⟨number, tag, hn⟩ := ht
  have hbecomes := h number
  rw [hn] at hbecomes
  generalize hnode : b.nodes.getD number .empty = n at hbecomes
  cases hbecomes with
  | scalar _ _ => exact ⟨number, _, hnode⟩

/-- A text always fits to its tag, so a node whose tag does not fit has had this tag before. -/
theorem Follows.refused (h : Follows b b') (hm : Refused b'.nodes m) : Refused b.nodes m := by
  obtain ⟨number, hrefuses⟩ := hm
  refine ⟨number, ?_⟩
  have hbecomes := h number
  generalize b.nodes.getD number .empty = n at hbecomes
  generalize b'.nodes.getD number .empty = n' at hbecomes hrefuses
  cases hbecomes with
  | scalar ht text =>
    cases hrefuses with
    | scalar hv =>
      rcases ht with rfl | ⟨rfl, rfl⟩
      · exact .scalar hv
      · cases hv
  | sequence ht items => cases hrefuses
  | mapping ht entries entries' =>
    cases hrefuses with
    | mapping htext hv =>
      rcases ht with rfl | ⟨rfl, rfl⟩
      · exact .mapping (h.isText htext) hv
      · cases hv
    | moment =>
      rcases ht with rfl | ⟨-, ht⟩
      · exact .moment
      · cases ht
    | circle hscalar =>
      rcases ht with rfl | ⟨rfl, -⟩
      · exact .circle hscalar
      · exact .circle rfl

end

/-! ## Building -/

/-- Nodes change only as merging changes them, and building fails at a scalar only if the tag of a node
does not fit to its text. -/
def following : Conduct where
  Changes := Follows
  Fails b f := ∀ m, f = .scalar m → Refused b.nodes m
  refl _ _ := .refl _
  trans h h' number := (h number).trans (h' number)
  fails_of_changes h hf m hm := h.refused (hf m hm)
  malformed _ m h := by cases h

namespace Build

variable {b : Building}

theorem follows_of_nodes_eq {b' : Building} (h : b'.nodes = b.nodes) : Follows b b' := by
  intro number
  rw [h]
  exact .refl _

/-- A step that changes no node. -/
theorem follows_setMade (number : Nat) (m : Made) : Respects following (setMade number m) :=
  respects_modify fun _ => follows_of_nodes_eq rfl

theorem leads_setNode {number : Nat} {n : Node}
    (hn : (b.nodes.getD number .empty).Becomes n) : Leads following b (setNode number n b) := by
  refine .ok fun number' => ?_
  show Node.Becomes _ ((b.nodes.setIfInBounds number n).getD number' .empty)
  by_cases hset : number = number' ∧ number < b.nodes.size
  · obtain ⟨rfl, hlt⟩ := hset
    have hget : (b.nodes.setIfInBounds number n).getD number .empty = n := by
      rw [Array.getD_eq_getD_getElem?, Array.getElem?_setIfInBounds_self_of_lt hlt]
      rfl
    rw [hget]
    exact hn
  · have hget : (b.nodes.setIfInBounds number n).getD number' .empty =
        b.nodes.getD number' .empty := by
      rw [Array.getD_eq_getD_getElem?, Array.getD_eq_getD_getElem?, Array.getElem?_setIfInBounds]
      grind
    rw [hget]
    exact .refl _

/-! ### Merging -/

theorem follows_settleKey (number : Nat) : Respects following (settleKey number) := by
  intro b
  refine leads_bind (respects_nodeAt number b) fun n b₁ hn => ?_
  cases hn
  split
  · next htag => exact leads_setNode (.retag (eq_of_beq htag))
  · exact respects_pure _ b

theorem follows_setEntries (number : Nat) (entries : List (Nat × Nat)) :
    Respects following (setEntries number entries) := by
  intro b
  refine leads_bind (respects_nodeAt number b) fun n b₁ hn => ?_
  cases hn
  cases hnode : b.nodes.getD number .empty with
  | mapping tag old => exact leads_setNode (hnode ▸ .mapping (.inl rfl) old entries)
  | _ => exact respects_pure _ b

/-! ### Meeting nodes -/

theorem get_bind {α : Type} (f : Building → Build α) : (get >>= f) b = f b b := rfl

/-- The text of a node is that of some node, unless there is none or its mappings stand for each other
in a circle. -/
theorem ends_textOf (fuel number : Nat) :
    Ends (fun r => IsText b.nodes r.1) (fun f => f = .malformed ∨ f = .scalar .tooDeep)
      (textOf fuel (b.nodes.getD number .empty) b) := by
  induction fuel generalizing number with
  | zero => exact .error (.inr rfl)
  | succ fuel ih =>
    cases hn : b.nodes.getD number .empty with
    | scalar tag text => exact .ok ⟨number, tag, hn⟩
    | sequence tag items => exact .error (.inl rfl)
    | mapping tag entries =>
      rw [textOf, get_bind]
      generalize List.find? _ entries = found
      cases found with
      | some e => exact ih e.2
      | none => exact .error (.inl rfl)

/-- If the text of a node cannot be had, or does not fit to its tag, the node is refused. -/
theorem ends_textOf_succ (fuel number : Nat)
    (htag : isCollection (b.nodes.getD number .empty).tag = false) :
    Ends (fun r => ∀ m, scalarValue (b.nodes.getD number .empty).tag r.1 = .error (.scalar m) →
        (b.nodes.getD number .empty).Refuses b.nodes m)
      (fun f => ∀ m, f = .scalar m → (b.nodes.getD number .empty).Refuses b.nodes m)
      (textOf (fuel + 1) (b.nodes.getD number .empty) b) := by
  have hends := ends_textOf (b := b) (fuel + 1) number
  cases hn : b.nodes.getD number .empty with
  | scalar tag text => exact .ok fun _ h => .scalar h
  | sequence tag items => exact .error fun m hm => by cases hm
  | mapping tag entries =>
    rw [hn] at hends htag
    refine (hends.imp fun _ _ htext m h => .mapping htext h).imp_error ?_
    rintro f (rfl | rfl) m hm
    · cases hm
    · cases hm
      exact .circle htag

/-- Where a scalar cannot be read, the tag of its node does not fit to its text. -/
theorem leads_scalarOf (number : Nat)
    (htag : isCollection (b.nodes.getD number .empty).tag = false) :
    Leads following b (scalarOf number b) := by
  refine leads_bind (respects_nodeAt number b) fun n b₁ hn => ?_
  cases hn
  have htext := ends_textOf_succ b.nodes.size number htag
  have hrefused : ∀ m, (b.nodes.getD number .empty).Refuses b.nodes m → Refused b.nodes m :=
    fun m hm => ⟨number, hm⟩
  refine leads_bind (respects_get b) fun b₂ b₃ hget => ?_
  cases hget
  generalize b.nodes.getD number .empty = n at htext hrefused
  refine Ends.bind (htext.imp_error fun f hf m hm => hrefused m (hf m hm)) ?_
  rintro ⟨text, b₁⟩ hrun hfit
  cases eq_of_textOf hrun
  have hvalue : Leads following b ((do
      let v ← (scalarValue n.tag text : Build Value)
      return Made.scalar v (if isNanWord text then none else some number) : Build Made) b) := by
    cases hv : scalarValue n.tag text with
    | error f => exact .error fun m hm => hrefused m (hfit m (hm ▸ hv))
    | ok v => exact .ok (following.refl b)
  generalize htag : n.tag = tag at hvalue ⊢
  cases tag with
  | timestamp =>
    cases n with
    | mapping tag entries =>
      cases htag
      exact .error fun m hm => by cases hm; exact hrefused _ .moment
    | _ => exact hvalue
  | _ => exact hvalue

theorem follows_meet (number : Nat) : Respects following (meet number) := by
  intro b
  refine leads_bind (respects_get b) fun b₁ b₂ hget => ?_
  cases hget
  cases b.made.getD number none with
  | some m => exact respects_pure _ b
  | none =>
    refine leads_bind (respects_nodeAt number b) fun n b₃ hn => ?_
    cases hn
    split
    · refine ((follows_setMade number .waiting).bind fun _ => ?_) b
      exact respects_modify fun b => follows_of_nodes_eq (b := b) rfl
    · next htag =>
      exact leads_bind (leads_scalarOf number (Bool.eq_false_iff.2 htag)) fun m b₄ _ =>
        follows_setMade number m b₄

/-! ### Filling collections -/

/-- A collection of entries is filled. -/
theorem follows_ofEntries {number : Nat} (f : List (Nat × Nat) → Made) :
    Respects following (do
      merge number
      setMade number (f (← entriesIn (← entriesOf number)))) :=
  (respects_merge follows_settleKey follows_setEntries number).bind fun _ =>
    (respects_entriesOf number).bind fun _ =>
      (respects_entriesIn follows_meet _).bind fun _ => follows_setMade number _

theorem follows_fill (number : Nat) : Respects following (fill number) := by
  refine (respects_nodeAt number).bind fun n => ?_
  split
  · exact (respects_forM follows_meet).bind fun _ => follows_setMade number _
  · exact (respects_mapM (respects_pairOf follows_meet)).bind fun _ => follows_setMade number _
  · exact (respects_mapM (respects_pairOf follows_meet)).bind fun _ => follows_setMade number _
  · exact follows_ofEntries Made.map
  · exact follows_ofEntries fun entries => Made.set (entries.map Prod.fst)
  · exact respects_fail

theorem follows_fillAll (n : Nat) : Respects following (fillAll n) := by
  induction n with
  | zero => exact respects_pure _
  | succ n ih =>
    refine respects_get.bind fun _ => Respects.bind ?_ fun _ => ?_
    · exact respects_modify fun _ => follows_of_nodes_eq rfl
    · exact (respects_forM follows_fill).bind fun _ => ih

end Build

/-- Where a document has no value because a scalar cannot be read, one of its nodes has a tag that
does not fit to its text. -/
theorem Graph.refuses_of_value {g : Graph} {m : Malformed} (h : g.value = .error (.scalar m)) :
    ∃ n ∈ g.nodes, n.Refuses g.nodes m := by
  have hbuild : Build.Respects following (do
      Build.meet g.root
      Build.fillAll (g.nodes.size + 1)) :=
    (Build.follows_meet g.root).bind fun _ => Build.follows_fillAll _
  have hends : Build.Leads following _ (StateT.run _ _) :=
    hbuild ⟨g.nodes, Array.replicate g.nodes.size none, []⟩
  rcases bind_eq_error.1 h with h | ⟨r, -, h⟩
  · rw [h] at hends
    exact (hends.of_error m rfl).exists_mem
  · cases h

end ClientPlan.Yaml
