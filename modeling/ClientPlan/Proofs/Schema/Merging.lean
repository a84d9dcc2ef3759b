import ClientPlan.Proofs.Document.TextKeys
import ClientPlan.Schema.Declaration
import Mathlib.Data.List.Induction

/-!
# Merged declarations

Declarations are merged name by name: a name keeps the position in which it is met first and gets
the declaration that is met last (`merges_merge`).  It makes no difference whether some of them have
been merged before (`merge_flatten_map_merge`), so merging at every level of a composition comes to
merging once at the end.

All this is about names that are texts or octets, as those of fields are: such names agree only if
they are equal.
-/

set_option autoImplicit false

namespace ClientPlan

/-- Whether a value is a text or octets, which may stand for a text. -/
def Value.isTextual : Value → Bool
  | str _ | bytes _ => true
  | _ => false

theorem Value.agrees_iff_eq {k name : Value} (h : name.isTextual = true) :
    k.agrees name = true ↔ k = name := by
  cases name with
  | str s => exact agrees_str
  | bytes octets => cases k <;> simp [agrees]
  | _ => cases h

namespace Declaration

variable {d e : Declaration} {l r acc : List Declaration}

/-- The names of all declarations are texts or octets. -/
def AllTextual (l : List Declaration) : Prop := ∀ d ∈ l, d.name.isTextual = true

theorem allTextual_append : AllTextual (l ++ r) ↔ AllTextual l ∧ AllTextual r :=
  List.forall_mem_append

theorem allTextual_cons : AllTextual (d :: l) ↔ d.name.isTextual = true ∧ AllTextual l :=
  List.forall_mem_cons

/-! ## One declaration more -/

theorem set_of_forall_ne (hd : d.name.isTextual = true) (h : ∀ e ∈ l, e.name ≠ d.name) :
    d.set l = l ++ [d] := by
  induction l with
  | nil => rfl
  | cons e r ih =>
    obtain ⟨he, hr⟩ := List.forall_mem_cons.1 h
    rw [set, if_neg fun hagrees => he ((Value.agrees_iff_eq hd).1 hagrees), ih hr]
    rfl

theorem set_append_cons (hd : d.name.isTextual = true) (he : e.name = d.name)
    (h : ∀ e ∈ l, e.name ≠ d.name) : d.set (l ++ e :: r) = l ++ d :: r := by
  induction l with
  | nil => exact if_pos ((Value.agrees_iff_eq hd).2 he)
  | cons e' l ih =>
    obtain ⟨he', hl⟩ := List.forall_mem_cons.1 h
    rw [List.cons_append, set, if_neg fun hagrees => he' ((Value.agrees_iff_eq hd).1 hagrees),
      ih hl]
    rfl

/-- A name is new, or some declaration is the first of that name. -/
theorem forall_ne_or_first (l : List Declaration) (name : Value) :
    (∀ e ∈ l, e.name ≠ name) ∨
      ∃ before first after, l = before ++ first :: after ∧ first.name = name ∧
        ∀ e ∈ before, e.name ≠ name := by
  induction l with
  | nil => exact .inl fun e he => by cases he
  | cons e r ih =>
    by_cases he : e.name = name
    · exact .inr ⟨[], e, r, rfl, he, fun b hb => by cases hb⟩
    · rcases ih with hr | ⟨before, first, after, rfl, hfirst, hbefore⟩
      · exact .inl (List.forall_mem_cons.2 ⟨he, hr⟩)
      · exact .inr ⟨e :: before, first, after, rfl, hfirst, List.forall_mem_cons.2 ⟨he, hbefore⟩⟩

/-- The names after one declaration more. -/
theorem map_name_set (hd : d.name.isTextual = true) :
    (d.set l).map name = l.map name ∧ (∃ e ∈ l, e.name = d.name) ∨
      (d.set l).map name = l.map name ++ [d.name] ∧ ∀ e ∈ l, e.name ≠ d.name := by
  rcases forall_ne_or_first l d.name with hnew | ⟨before, first, after, rfl, hfirst, hbefore⟩
  · rw [set_of_forall_ne hd hnew, List.map_append]
    exact .inr ⟨rfl, hnew⟩
  · rw [set_append_cons hd hfirst hbefore, List.map_append, List.map_append, List.map_cons,
      List.map_cons, hfirst]
    exact .inl ⟨rfl, first, List.mem_append_right _ List.mem_cons_self, hfirst⟩

/-- Of two declarations of one name the second counts. -/
theorem set_set (hd : d.name.isTextual = true) (he : e.name = d.name) :
    d.set (e.set l) = d.set l := by
  have he' : e.name.isTextual = true := he ▸ hd
  rcases forall_ne_or_first l d.name with hnew | ⟨before, first, after, rfl, hfirst, hbefore⟩
  · have hnew' : ∀ e' ∈ l, e'.name ≠ e.name := he ▸ hnew
    rw [set_of_forall_ne he' hnew', set_append_cons hd he hnew, set_of_forall_ne hd hnew]
  · have hbefore' : ∀ e' ∈ before, e'.name ≠ e.name := he ▸ hbefore
    rw [set_append_cons he' (hfirst.trans he.symm) hbefore', set_append_cons hd he hbefore,
      set_append_cons hd hfirst hbefore]

/-- A declaration of a name that has its position may be met before one of another name. -/
theorem set_comm (hd : d.name.isTextual = true) (he : e.name.isTextual = true)
    (hne : e.name ≠ d.name) (hmem : ∃ d' ∈ l, d'.name = d.name) :
    d.set (e.set l) = e.set (d.set l) := by
  induction l with
  | nil =>
    obtain ⟨d', hd', -⟩ := hmem
    cases hd'
  | cons f r ih =>
    by_cases hf : f.name = d.name
    · have hfe : f.name ≠ e.name := fun h => hne (h.symm.trans hf)
      rw [set, if_neg fun h => hfe ((Value.agrees_iff_eq he).1 h), set,
        if_pos ((Value.agrees_iff_eq hd).2 hf), set, if_pos ((Value.agrees_iff_eq hd).2 hf), set,
        if_neg fun h => hne ((Value.agrees_iff_eq he).1 h).symm]
    · have hmem : ∃ d' ∈ r, d'.name = d.name := by
        obtain ⟨d', hd', hname⟩ := hmem
        rcases List.mem_cons.1 hd' with rfl | hd'
        · exact absurd hname hf
        · exact ⟨d', hd', hname⟩
      have hfd : ¬ f.name.agrees d.name = true := fun h => hf ((Value.agrees_iff_eq hd).1 h)
      by_cases hfe : f.name.agrees e.name = true
      · rw [set, if_pos hfe, set, if_neg fun h => hne ((Value.agrees_iff_eq hd).1 h), set,
          if_neg hfd, set, if_pos hfe]
      · rw [set, if_neg hfe, set, if_neg hfd, ih hmem, set, if_neg hfd, set, if_neg hfe]

/-! ## Several declarations more -/

/-- Some declarations with others that come after them. -/
def absorb (acc l : List Declaration) : List Declaration := l.foldl (fun acc d => d.set acc) acc

theorem absorb_append : absorb acc (l ++ r) = absorb (absorb acc l) r := List.foldl_append

theorem merge_concat : merge (l ++ [d]) = d.set (merge l) :=
  List.foldl_append (b := [])

/-- A new declaration is there. -/
theorem mem_set : d ∈ d.set l := by
  induction l with
  | nil => exact List.mem_singleton_self d
  | cons e r ih =>
    rw [set]
    split
    · exact List.mem_cons_self
    · exact List.mem_cons_of_mem _ ih

/-- No name is lost by one declaration more. -/
theorem exists_name_set (hd : d.name.isTextual = true) {name : Value}
    (h : ∃ e ∈ l, e.name = name) : ∃ e ∈ d.set l, e.name = name := by
  rw [← List.mem_map] at h ⊢
  rcases map_name_set (l := l) hd with ⟨hnames, -⟩ | ⟨hnames, -⟩
  · rwa [hnames]
  · rw [hnames]
    exact List.mem_append_left _ h

/-- A declaration of a name that has its position may be met before others of other names. -/
theorem set_absorb (hd : d.name.isTextual = true) (hl : AllTextual l)
    (hne : ∀ e ∈ l, e.name ≠ d.name) (hmem : ∃ d' ∈ acc, d'.name = d.name) :
    d.set (absorb acc l) = absorb (d.set acc) l := by
  induction l generalizing acc with
  | nil => rfl
  | cons e r ih =>
    obtain ⟨he, hr⟩ := allTextual_cons.1 hl
    obtain ⟨hed, hrd⟩ := List.forall_mem_cons.1 hne
    calc d.set (absorb (e.set acc) r)
        = absorb (d.set (e.set acc)) r := ih hr hrd (exists_name_set he hmem)
      _ = absorb (e.set (d.set acc)) r := by rw [set_comm hd he hed hmem]

/-- What comes after a merged list with one declaration more comes after the list, and then after
that declaration. -/
theorem absorb_set (hd : d.name.isTextual = true) (hl : AllTextual l) (hnodup : (l.map name).Nodup) :
    absorb acc (d.set l) = d.set (absorb acc l) := by
  rcases forall_ne_or_first l d.name with hnew | ⟨before, first, after, rfl, hfirst, hbefore⟩
  · rw [set_of_forall_ne hd hnew, absorb_append]
    rfl
  · obtain ⟨-, htail⟩ := allTextual_append.1 hl
    obtain ⟨hfirstTextual, hafterTextual⟩ := allTextual_cons.1 htail
    have hafter : ∀ e ∈ after, e.name ≠ d.name := by
      intro e he heq
      rw [List.map_append, List.map_cons, List.nodup_append, List.nodup_cons] at hnodup
      exact hnodup.2.1.1 (List.mem_map.2 ⟨e, he, heq.trans hfirst.symm⟩)
    rw [set_append_cons hd hfirst hbefore, absorb_append, absorb_append]
    show absorb (d.set (absorb acc before)) after =
      d.set (absorb (first.set (absorb acc before)) after)
    rw [set_absorb hd hafterTextual hafter ⟨first, mem_set, hfirst⟩, set_set hd hfirst]

/-! ## The merge of declarations -/

/-- The name `name` is met in a list before `other` is. -/
def MetBefore (l : List Declaration) (name other : Value) : Prop :=
  ∃ before first after, l = before ++ first :: after ∧ first.name = name ∧
    ∀ e ∈ before, e.name ≠ other

/-- `merged` is what is left of the declarations `l` if every name keeps its first position and gets
its last declaration. -/
structure Merges (l merged : List Declaration) : Prop where
  /-- No name is left twice. -/
  distinct : (merged.map name).Nodup
  /-- No name is lost. -/
  complete : ∀ e ∈ l, ∃ d ∈ merged, d.name = e.name
  /-- What is left is the last declaration of its name. -/
  last : ∀ d ∈ merged, ∃ before after, l = before ++ d :: after ∧ ∀ e ∈ after, e.name ≠ d.name
  /-- The names are in the order in which they are met first. -/
  ordered : (merged.map name).Pairwise (MetBefore l)

theorem MetBefore.append {name other : Value} (h : MetBefore l name other) :
    MetBefore (l ++ r) name other := by
  obtain ⟨before, first, after, rfl, hname, hother⟩ := h
  exact ⟨before, first, after ++ r, by rw [List.append_assoc, List.cons_append], hname, hother⟩

namespace Merges

variable {merged : List Declaration}

theorem mem (h : Merges l merged) (hd : d ∈ merged) : d ∈ l := by
  obtain ⟨before, after, rfl, -⟩ := h.last d hd
  exact List.mem_append_right _ List.mem_cons_self

theorem allTextual (h : Merges l merged) (hl : AllTextual l) : AllTextual merged :=
  fun d hd => hl d (h.mem hd)

/-- The last declaration of a name that is left stays the last of its name if others of other names
follow. -/
theorem last_concat (h : Merges l merged) (hd : d ∈ merged) (hne : e.name ≠ d.name) :
    ∃ before after, l ++ [e] = before ++ d :: after ∧ ∀ e ∈ after, e.name ≠ d.name := by
  obtain ⟨before, after, rfl, hafter⟩ := h.last d hd
  refine ⟨before, after ++ [e], by rw [List.append_assoc, List.cons_append], ?_⟩
  exact List.forall_mem_append.2 ⟨hafter, List.forall_mem_singleton.2 hne⟩

theorem concat (h : Merges l merged) (hd : d.name.isTextual = true) :
    Merges (l ++ [d]) (d.set merged) := by
  have hordered := h.ordered.imp fun {n n'} hbefore => hbefore.append (r := [d])
  rcases forall_ne_or_first merged d.name with hnew | ⟨before, first, after, rfl, hfirst, hbefore⟩
  · -- A name that is new: it goes to the end.
    rw [set_of_forall_ne hd hnew]
    have hl : ∀ e ∈ l, e.name ≠ d.name := by
      intro e he heq
      obtain ⟨d', hd', hname⟩ := h.complete e he
      exact hnew d' hd' (hname.trans heq)
    refine ⟨?_, ?_, ?_, ?_⟩
    · rw [List.map_append, List.nodup_append]
      refine ⟨h.distinct, List.pairwise_singleton _ _, fun n hn n' hn' heq => ?_⟩
      obtain ⟨e, he, rfl⟩ := List.mem_map.1 hn
      rw [List.map_singleton, List.mem_singleton] at hn'
      exact hnew e he (heq.trans hn')
    · refine List.forall_mem_append.2 ⟨fun e he => ?_, List.forall_mem_singleton.2 ?_⟩
      · obtain ⟨d', hd', hname⟩ := h.complete e he
        exact ⟨d', List.mem_append_left _ hd', hname⟩
      · exact ⟨d, List.mem_append_right _ (List.mem_singleton_self d), rfl⟩
    · refine List.forall_mem_append.2 ⟨fun e he => h.last_concat he (hnew e he).symm, ?_⟩
      exact List.forall_mem_singleton.2 ⟨l, [], rfl, fun e he => by cases he⟩
    · rw [List.map_append, List.pairwise_append]
      refine ⟨hordered, List.pairwise_singleton _ _, fun n hn n' hn' => ?_⟩
      obtain ⟨e, he, rfl⟩ := List.mem_map.1 hn
      rw [List.map_singleton, List.mem_singleton] at hn'
      obtain ⟨earlier, later, rfl, -⟩ := h.last e he
      refine ⟨earlier, e, later ++ [d], by rw [List.append_assoc, List.cons_append], rfl, ?_⟩
      exact fun b hb => hn' ▸ hl b (List.mem_append_left _ hb)
  · -- A name that has its position: the declaration there is replaced.
    have hnames : (before ++ d :: after).map name = (before ++ first :: after).map name := by
      rw [List.map_append, List.map_append, List.map_cons, List.map_cons, hfirst]
    have hafter : ∀ e ∈ after, e.name ≠ d.name := by
      intro e he heq
      have hdistinct := h.distinct
      rw [List.map_append, List.map_cons, List.nodup_append, List.nodup_cons] at hdistinct
      exact hdistinct.2.1.1 (List.mem_map.2 ⟨e, he, heq.trans hfirst.symm⟩)
    rw [set_append_cons hd hfirst hbefore]
    refine ⟨hnames ▸ h.distinct, ?_, ?_, hnames ▸ hordered⟩
    · have hmem : ∀ n, (∃ d' ∈ before ++ first :: after, d'.name = n) →
          ∃ d' ∈ before ++ d :: after, d'.name = n := by
        intro n hn
        rw [← List.mem_map] at hn ⊢
        rwa [hnames]
      refine List.forall_mem_append.2 ⟨fun e he => hmem _ (h.complete e he), ?_⟩
      exact List.forall_mem_singleton.2
        ⟨d, List.mem_append_right _ List.mem_cons_self, rfl⟩
    · refine List.forall_mem_append.2 ⟨fun e he => ?_, List.forall_mem_cons.2 ⟨?_, fun e he => ?_⟩⟩
      · exact h.last_concat (List.mem_append_left _ he) (hbefore e he).symm
      · exact ⟨l, [], rfl, fun e he => by cases he⟩
      · exact h.last_concat (List.mem_append_right _ (List.mem_cons_of_mem _ he)) (hafter e he).symm

end Merges

/-- Merging keeps every name at its first position with its last declaration. -/
theorem merges_merge (hl : AllTextual l) : Merges l (merge l) := by
  induction l using List.reverseRecOn with
  | nil =>
    exact ⟨List.nodup_nil, fun _ he => (List.not_mem_nil he).elim,
      fun _ hd => (List.not_mem_nil hd).elim, List.Pairwise.nil⟩
  | append_singleton l d ih =>
    obtain ⟨hinit, hd⟩ := allTextual_append.1 hl
    rw [merge_concat]
    exact (ih hinit).concat (hd d (List.mem_singleton_self d))

/-- What comes after merged declarations comes after the declarations. -/
theorem absorb_merge (hl : AllTextual l) : absorb acc (merge l) = absorb acc l := by
  induction l using List.reverseRecOn with
  | nil => rfl
  | append_singleton l d ih =>
    obtain ⟨hinit, hd⟩ := allTextual_append.1 hl
    have hmerges := merges_merge hinit
    calc absorb acc (merge (l ++ [d]))
        = absorb acc (d.set (merge l)) := by rw [merge_concat]
      _ = d.set (absorb acc (merge l)) :=
          absorb_set (hd d (List.mem_singleton_self d)) (hmerges.allTextual hinit) hmerges.distinct
      _ = d.set (absorb acc l) := by rw [ih hinit]
      _ = absorb acc (l ++ [d]) := by rw [absorb_append]; rfl

/-- Lists that have been merged one by one are merged like the lists themselves. -/
theorem merge_flatten_map_merge {lists : List (List Declaration)}
    (h : ∀ l ∈ lists, AllTextual l) :
    merge ((lists.map merge).flatten ++ r) = merge (lists.flatten ++ r) := by
  have hlists : ∀ acc, absorb acc (lists.map merge).flatten = absorb acc lists.flatten := by
    intro acc
    induction lists generalizing acc with
    | nil => rfl
    | cons l lists ih =>
      obtain ⟨hl, hlists⟩ := List.forall_mem_cons.1 h
      rw [List.map_cons, List.flatten_cons, List.flatten_cons, absorb_append, absorb_append,
        absorb_merge hl, ih hlists]
  show absorb [] _ = absorb [] _
  rw [absorb_append, absorb_append, hlists]

/-! ## Names that are left -/

theorem allTextual_of_set (h : AllTextual (d.set l)) : d.name.isTextual = true ∧ AllTextual l := by
  have hd := h d mem_set
  refine ⟨hd, ?_⟩
  rcases forall_ne_or_first l d.name with hnew | ⟨before, first, after, rfl, hfirst, hbefore⟩
  · rw [set_of_forall_ne hd hnew] at h
    exact (allTextual_append.1 h).1
  · rw [set_append_cons hd hfirst hbefore] at h
    obtain ⟨hinit, htail⟩ := allTextual_append.1 h
    refine allTextual_append.2 ⟨hinit, allTextual_cons.2 ⟨?_, (allTextual_cons.1 htail).2⟩⟩
    rw [hfirst]
    exact hd

/-- If all names that are left are texts or octets, all names were. -/
theorem allTextual_of_merge (h : AllTextual (merge l)) : AllTextual l := by
  induction l using List.reverseRecOn with
  | nil => exact fun d hd => by cases hd
  | append_singleton l d ih =>
    rw [merge_concat] at h
    obtain ⟨hd, hinit⟩ := allTextual_of_set h
    exact allTextual_append.2 ⟨ih hinit, allTextual_cons.2 ⟨hd, fun e he => by cases he⟩⟩

end Declaration

end ClientPlan
