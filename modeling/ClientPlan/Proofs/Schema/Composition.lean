import ClientPlan.Proofs.Schema.Flattening
import ClientPlan.Proofs.Schema.Merging

/-!
# Composed schemas

`Flattens` says which nodes are flattened into a schema: the nodes of the members of `allOf`, one
member after another, and then its own, references followed.  What is met again on the way to itself
contributes nothing.

Main statement: the properties of a schema are the merge of what these nodes declare by themselves,
one node after another (`merge_of_ofSchema`).
-/

set_option autoImplicit false

namespace ClientPlan

namespace Declaration

/-! ## Flattened nodes -/

/-- What is on the way to a member of `allOf` of a node that `seen` leads to: a member is remembered
by its pointer, unless it is a reference, which is remembered once it is followed. -/
def wayTo (seen : List String) (m : Position) : List String :=
  if m.node.has referenceKey then seen else m.pointer :: seen

/-- `nodes` are the nodes that are flattened into the schema at a position, in the order in which
what they declare counts; `seen` holds the references and members on the way to the position. -/
inductive Flattens (document : Value) : List String → Position → List Position → Prop where
  /-- What is no mapping contributes nothing. -/
  | other {seen : List String} {p : Position} (hmap : p.node.isMap = false) :
      Flattens document seen p []
  /-- A reference to what is on the way contributes nothing. -/
  | again {seen : List String} {p : Position} {ref : String}
      (href : p.node.get? referenceKey = some (.str ref)) (hseen : ref ∈ seen) :
      Flattens document seen p []
  /-- A reference contributes what its target does. -/
  | reference {seen : List String} {p : Position} {ref : String} {target : Value}
      {nodes : List Position} (href : p.node.get? referenceKey = some (.str ref))
      (hnew : ref ∉ seen) (htarget : Pointer.resolve document ref = .ok target)
      (h : Flattens document (ref :: seen) ⟨target, ref⟩ nodes) : Flattens document seen p nodes
  /-- A node contributes what the members of `allOf` do, and then itself. -/
  | node {seen : List String} {p : Position} {members : List Value} {lists : List (List Position)}
      (hmap : p.node.isMap = true) (href : p.node.get? referenceKey = none)
      (hmembers : allOfMembers p.node = .ok members) (hlength : lists.length = members.length)
      (h : ∀ m nodes, (m, nodes) ∈ (memberPositions "allOf" p.pointer members).zip lists →
        Flattens document (wayTo seen m) m nodes) :
      Flattens document seen p (lists.flatten ++ [p])

/-- The names that a node requires, if that can be said. -/
def requiredOf (node : Value) : List Value := (requiredNames node).toOption.getD []

/-- What a node declares by itself. -/
def declaredAt (p : Position) : List Declaration := own p (requiredOf p.node)

variable {document : Value} {seen : List String} {p : Position} {nodes : List Position}

/-- A schema that is flattened, and what it declares: the merge of what its nodes declare. -/
def FlattensTo (document : Value) (seen : List String) (p : Position) (l : List Declaration) :
    Prop :=
  ∃ nodes, Flattens document seen p nodes ∧ AllTextual (nodes.flatMap declaredAt) ∧
    l = merge (nodes.flatMap declaredAt)

theorem FlattensTo.nil (h : Flattens document seen p []) : FlattensTo document seen p [] :=
  ⟨[], h, fun _ hd => (List.not_mem_nil hd).elim, rfl⟩

theorem getElem_mem_zip {α β : Type} {l : List α} {r : List β} {i : Nat} (hl : i < l.length)
    (hr : i < r.length) : (l[i], r[i]) ∈ l.zip r :=
  List.mem_iff_getElem.2 ⟨i, by rw [List.length_zip]; omega, List.getElem_zip⟩

theorem length_memberPositions {keyword pointer : String} {members : List Value} :
    (memberPositions keyword pointer members).length = members.length := by
  rw [memberPositions, List.length_map, List.length_zipIdx]

/-- Which nodes are flattened into a schema is determined. -/
theorem Flattens.unique {nodes' : List Position} (h : Flattens document seen p nodes)
    (h' : Flattens document seen p nodes') : nodes = nodes' := by
  induction h generalizing nodes' with
  | other hmap =>
    cases h' with
    | other _ | again _ _ => rfl
    | reference href _ _ _ => exact absurd (Value.isMap_of_get? href) (by rw [hmap]; decide)
    | node hmap' _ _ _ _ => exact absurd hmap' (by rw [hmap]; decide)
  | again href hseen =>
    cases h' with
    | other _ | again _ _ => rfl
    | reference href' hnew _ _ =>
      cases href.symm.trans href'
      exact absurd hseen hnew
    | node _ hnone _ _ _ => cases href.symm.trans hnone
  | reference href hnew htarget _ ih =>
    cases h' with
    | other hmap => exact absurd (Value.isMap_of_get? href) (by rw [hmap]; decide)
    | again href' hseen =>
      cases href.symm.trans href'
      exact absurd hseen hnew
    | reference href' _ htarget' h' =>
      cases href.symm.trans href'
      cases htarget.symm.trans htarget'
      exact ih h'
    | node _ hnone _ _ _ => cases href.symm.trans hnone
  | @node _ p members lists hmap hnone hmembers hlength _ ih =>
    cases h' with
    | other hmap' => exact absurd hmap (by rw [hmap']; decide)
    | again href _ | reference href _ _ _ => cases href.symm.trans hnone
    | @node _ _ _ lists' _ _ hmembers' hlength' h' =>
      cases hmembers.symm.trans hmembers'
      have hlists : lists = lists' := by
        refine List.ext_getElem (hlength.trans hlength'.symm) fun i hi hi' => ?_
        have hm : i < (memberPositions "allOf" p.pointer members).length := by
          rw [length_memberPositions, ← hlength]
          exact hi
        exact ih _ _ (getElem_mem_zip hm hi) (h' _ _ (getElem_mem_zip hm hi'))
      rw [hlists]

/-- What references and parts inherit from a schema holds of the nodes that are flattened into it. -/
theorem Flattens.inherits {good : Position → Prop} (hgood : Position.Inherited document good)
    (h : Flattens document seen p nodes) (hp : good p) : ∀ q ∈ nodes, good q := by
  induction h with
  | other _ | again _ _ => exact fun q hq => (List.not_mem_nil hq).elim
  | reference href _ htarget _ ih => exact ih (hgood.reference hp href htarget)
  | @node _ p members lists _ hnone hmembers hlength _ ih =>
    refine List.forall_mem_append.2 ⟨fun q hq => ?_, List.forall_mem_singleton.2 hp⟩
    obtain ⟨nodes, hnodes, hq⟩ := List.mem_flatten.1 hq
    obtain ⟨i, hi, rfl⟩ := List.getElem_of_mem hnodes
    have hmember : members[i]? = some members[i] := List.getElem?_eq_getElem (hlength ▸ hi)
    have hm : (memberPositions "allOf" p.pointer members)[i]? =
        some ⟨members[i], Pointer.item p.pointer "allOf" i⟩ := by
      rw [memberPositions, List.getElem?_map, List.getElem?_zipIdx, hmember]
      simp
    obtain ⟨hm', hget⟩ := List.getElem?_eq_some_iff.1 hm
    have hallOf := get?_of_allOfMembers hmembers (List.mem_of_getElem? hmember)
    refine ih _ _ (getElem_mem_zip hm' hi) ?_ q hq
    rw [hget]
    exact hgood.part hp hnone (.member (by decide) hallOf hmember)

/-- What stands for each item of a list as a function of something stands so for the whole list. -/
theorem exists_map_of_forall₂ {α β γ : Type} {R : α → γ → Prop} {f : γ → β} {l : List α}
    {r : List β} (h : List.Forall₂ (fun a b => ∃ c, R a c ∧ b = f c) l r) :
    ∃ cs, List.Forall₂ R l cs ∧ r = cs.map f := by
  induction h with
  | nil => exact ⟨[], .nil, rfl⟩
  | cons hab _ ih =>
    obtain ⟨c, hc, rfl⟩ := hab
    obtain ⟨cs, hcs, rfl⟩ := ih
    exact ⟨c :: cs, .cons hc hcs, rfl⟩

/-- A node whose members are flattened is flattened to the merge of what they declare and of what it
declares itself. -/
theorem FlattensTo.node {members : List Value} {inherited : List (List Declaration)}
    (hmap : p.node.isMap = true) (href : p.node.get? referenceKey = none)
    (hmembers : allOfMembers p.node = .ok members)
    (h : List.Forall₂ (fun m l => FlattensTo document (wayTo seen m) m l)
      (memberPositions "allOf" p.pointer members) inherited)
    (hown : AllTextual (declaredAt p)) :
    FlattensTo document seen p (merge (inherited.flatten ++ declaredAt p)) := by
  obtain ⟨lists, hlists, rfl⟩ := exists_map_of_forall₂
    (f := fun nodes => merge (nodes.flatMap declaredAt))
    (R := fun m nodes => Flattens document (wayTo seen m) m nodes ∧
      AllTextual (nodes.flatMap declaredAt))
    (h.imp fun m l ⟨nodes, hnodes, htextual, hl⟩ => ⟨nodes, ⟨hnodes, htextual⟩, hl⟩)
  obtain ⟨hlength, hlists⟩ := List.forall₂_iff_zip.1 hlists
  have htextual : ∀ nodes ∈ lists, AllTextual (nodes.flatMap declaredAt) := by
    intro nodes hnodes
    obtain ⟨i, hi, rfl⟩ := List.getElem_of_mem hnodes
    exact (hlists (getElem_mem_zip (hlength ▸ hi) hi)).2
  refine ⟨lists.flatten ++ [p], ?_, ?_, ?_⟩
  · exact .node hmap href hmembers (hlength.symm.trans length_memberPositions)
      fun m nodes hm => (hlists hm).1
  · rw [List.flatMap_append, List.flatMap_singleton]
    refine allTextual_append.2 ⟨fun d hd => ?_, hown⟩
    obtain ⟨q, hq, hd⟩ := List.mem_flatMap.1 hd
    obtain ⟨nodes, hnodes, hq⟩ := List.mem_flatten.1 hq
    exact htextual nodes hnodes d (List.mem_flatMap.2 ⟨q, hq, hd⟩)
  · rw [List.flatMap_append, List.flatMap_singleton]
    -- The members come merged; merging them once more with the rest gives what one merge gives.
    have hlistsTextual : ∀ l ∈ lists.map fun nodes => nodes.flatMap declaredAt, AllTextual l := by
      intro l hl
      obtain ⟨nodes, hnodes, rfl⟩ := List.mem_map.1 hl
      exact htextual nodes hnodes
    have hmerge := merge_flatten_map_merge (r := declaredAt p) hlistsTextual
    rw [List.map_map] at hmerge
    rw [List.flatMap_def, List.map_flatten, List.flatten_flatten, List.map_map]
    exact hmerge

/-! ## The recursion of flattening -/

/-- The answer to a call is a schema that is flattened, if the names in it are texts or octets. -/
abbrev Composes (document : Value) (c : List String × Position) (l : List Declaration) : Prop :=
  AllTextual l → FlattensTo document c.1 c.2 l

theorem composes_atReference {r : Value} (hr : p.node.get? referenceKey = some r) :
    (atReference document seen r).Ensures (Composes document) (Composes document (seen, p)) := by
  refine Body.ensures_bind (P := fun ref => r = .str ref)
    (fun ref href => Value.eq_str_of_soughtReference href) ?_
  rintro ref rfl
  split
  · next hseen => exact Body.ensures_pure fun _ => .nil (.again hr hseen)
  · next hnew =>
    refine Body.ensures_bind (P := fun target => Pointer.resolve document ref = .ok target)
      (fun target h => mapError_eq_ok.1 h) fun target htarget => ?_
    refine Body.ensures_call fun l hl htextual => ?_
    obtain ⟨nodes, hnodes, hrest⟩ := hl htextual
    exact ⟨nodes, .reference hr hnew htarget hnodes, hrest⟩

theorem composes_atMember {pointer : String} {m : Value} {i : Nat} :
    (atMember document seen pointer m i).Ensures (Composes document) fun l => AllTextual l →
      FlattensTo document (wayTo seen ⟨m, Pointer.item pointer "allOf" i⟩)
        ⟨m, Pointer.item pointer "allOf" i⟩ l := by
  unfold atMember
  split
  · next hnone =>
    rw [wayTo, if_neg (by rw [Value.has, hnone]; decide)]
    exact Body.ensures_call fun l hl => hl
  · next r hr =>
    rw [wayTo, if_pos (by rw [Value.has, hr]; rfl)]
    exact composes_atReference hr

/-- A call of the flattening answers rightly if the calls that it makes do. -/
theorem composes_recursion (c : List String × Position) :
    (recursion document c).Ensures (Composes document) (Composes document c) := by
  obtain ⟨seen, p⟩ := c
  unfold recursion
  dsimp only
  split
  · next hmap =>
    rw [Bool.not_eq_true'] at hmap
    exact Body.ensures_pure fun _ => .nil (.other hmap)
  next hmap =>
  split
  · next r hr => exact composes_atReference hr
  next href =>
  refine Body.ensures_bind (P := fun members => allOfMembers p.node = .ok members)
    (fun members h => h) fun members hmembers => ?_
  refine Body.ensures_bind (Body.ensures_mapM_forall₂ fun e _ => composes_atMember)
    fun inherited hinherited => ?_
  refine Body.ensures_bind (P := fun required => requiredNames p.node = .ok required)
    (fun required h => h) fun required hrequired => ?_
  refine Body.ensures_pure fun htextual => ?_
  have hown : own p required = declaredAt p := by
    rw [declaredAt, requiredOf, hrequired]
    rfl
  rw [hown] at htextual ⊢
  -- Merging keeps every name, so what the members gave is textual as well, and their answers count.
  obtain ⟨hlists, howned⟩ := allTextual_append.1 (allTextual_of_merge htextual)
  refine FlattensTo.node (by simpa using hmap) href hmembers ?_ howned
  rw [memberPositions, List.forall₂_map_left_iff]
  refine List.forall₂_iff_zip.2 ⟨hinherited.length_eq, fun {e l} he => ?_⟩
  refine (List.forall₂_iff_zip.1 hinherited).2 he fun d hd => ?_
  exact hlists d (List.mem_flatten.2 ⟨l, (List.of_mem_zip he).2, hd⟩)

/-- The properties of a schema, if they have names that are texts or octets, are the merge of what
its nodes declare. -/
theorem merge_of_ofSchema {l : List Declaration} (h : ofSchema document p = .ok l)
    (htextual : AllTextual l) : FlattensTo document [] p l :=
  Recursion.ensures (c := ([], p)) computes_collect guarded_recursion composes_recursion h htextual

end Declaration

end ClientPlan
