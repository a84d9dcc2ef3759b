import ClientPlan.Proofs.Discovery.Identity
import ClientPlan.Proofs.Recursion
import ClientPlan.Schema.Declaration

/-!
# The recursion of flattening

`Declaration.recursion` takes the collection of declared properties apart into its calls
(`computes_collect`).  Calls get smaller and remember the references that they follow
(`guarded_recursion`).  What references and parts inherit from a schema holds where its declared
properties stand (`good_of_ofSchema`): the properties of a located schema are located.
-/

set_option autoImplicit false

namespace ClientPlan

/-! ## What is inherited -/

/-- A property of positions passes from a reference to its target and from a schema to its parts. -/
structure Position.Inherited (document : Value) (good : Position → Prop) : Prop where
  /-- It passes to what a reference leads to. -/
  reference : ∀ {p : Position} {ref : String} {target : Value}, good p →
    p.node.get? referenceKey = some (.str ref) → Pointer.resolve document ref = .ok target →
      good ⟨target, ref⟩
  /-- It passes to the parts of a schema that is no reference. -/
  part : ∀ {p m : Position}, good p → p.node.get? referenceKey = none → p.Part m → good m

/-- What references and parts lead to from a located position is located. -/
theorem Position.inherited_located {document : Value} (hd : document.hasTextKeys = true)
    (hindices : document.hasIndices = true) :
    Position.Inherited document (Position.Located document) where
  reference _ _ htarget := by
    obtain ⟨path, hat⟩ := Position.At.of_resolve htarget
    exact hat.isLocated
  part hp _ hm := by
    obtain ⟨path, hat⟩ := hp hm.isMap
    obtain ⟨more, -, hpart⟩ := hat.part hd hindices hm
    exact hpart.isLocated

namespace Declaration

variable {document : Value} {seen : List String} {p : Position} {followed : Option String}
  {c : List String × Position}

/-- What flattening does at a reference. -/
def atReference (document : Value) (seen : List String) (r : Value) :
    Body (List String × Position) (List Declaration) (List Declaration) := do
  let ref ← .ends r.soughtReference
  if ref ∈ seen then pure []
  else do
    let target ← .ends ((Pointer.resolve document ref).mapError .document)
    .call (some ref) (ref :: seen, ⟨target, ref⟩)

/-- What flattening does at a member of `allOf`. -/
def atMember (document : Value) (seen : List String) (pointer : String) (m : Value) (i : Nat) :
    Body (List String × Position) (List Declaration) (List Declaration) :=
  match m.get? referenceKey with
  | none =>
    let pointer := Pointer.item pointer "allOf" i
    .call none (pointer :: seen, ⟨m, pointer⟩)
  | some r => atReference document seen r

/-- What flattening does between its calls; a call has the references and members on the way, and a
position. -/
def recursion (document : Value) : Recursion (List String × Position) (List Declaration) :=
  fun (seen, p) =>
    if !p.node.isMap then pure []
    else
      match p.node.get? referenceKey with
      | some r => atReference document seen r
      | none => do
        let members ← .ends (allOfMembers p.node)
        let inherited ← members.zipIdx.mapM fun (m, i) => atMember document seen p.pointer m i
        let required ← .ends (requiredNames p.node)
        return merge (inherited.flatten ++ own p required)

/-! ## Calls -/

theorem calls_atReference {r : Value} (h : (atReference document seen r).Calls followed c) :
    ∃ ref target, r = .str ref ∧ ref ∉ seen ∧ Pointer.resolve document ref = .ok target ∧
      followed = some ref ∧ c = (ref :: seen, ⟨target, ref⟩) := by
  obtain ⟨ref, href, h⟩ := Body.calls_ends_bind h
  split at h
  · cases h
  · next hseen =>
    obtain ⟨target, htarget, h⟩ := Body.calls_ends_bind h
    obtain ⟨rfl, rfl⟩ := Body.calls_call h
    exact ⟨ref, target, Value.eq_str_of_soughtReference href, hseen, mapError_eq_ok.1 htarget, rfl,
      rfl⟩

/-- All calls that flattening makes: it follows a reference at the node or at a member, or goes on
with a member. -/
theorem calls_recursion (h : (recursion document (seen, p)).Calls followed c) :
    (∃ v ref target, (v = p.node ∨ v.IsPart p.node) ∧ v.get? referenceKey = some (.str ref) ∧
      ref ∉ seen ∧ Pointer.resolve document ref = .ok target ∧ followed = some ref ∧
      c = (ref :: seen, ⟨target, ref⟩)) ∨
    ∃ members m i, allOfMembers p.node = .ok members ∧ members[i]? = some m ∧ followed = none ∧
      c = (Pointer.item p.pointer "allOf" i :: seen, ⟨m, Pointer.item p.pointer "allOf" i⟩) := by
  unfold recursion at h
  dsimp only at h
  split at h
  · cases h
  split at h
  · next r hr =>
    obtain ⟨ref, target, rfl, hcall⟩ := calls_atReference h
    exact .inl ⟨p.node, ref, target, .inl rfl, hr, hcall⟩
  · obtain ⟨members, hmembers, h⟩ := Body.calls_ends_bind h
    rcases Body.calls_bind h with h | ⟨inherited, h⟩
    · obtain ⟨⟨m, i⟩, hm, h⟩ := Body.calls_mapM h
      have hm : members[i]? = some m := List.mem_zipIdx_iff_getElem?.1 hm
      unfold atMember at h
      split at h
      · obtain ⟨rfl, rfl⟩ := Body.calls_call h
        exact .inr ⟨members, m, i, hmembers, hm, rfl, rfl⟩
      · next r hr =>
        obtain ⟨ref, target, rfl, hcall⟩ := calls_atReference h
        have hpart := isPart_of_mem_allOfMembers hmembers (List.mem_of_getElem? hm)
        exact .inl ⟨m, ref, target, .inr hpart, hr, hcall⟩
    · -- Nothing is called once all members have been collected.
      obtain ⟨required, -, h⟩ := Body.calls_ends_bind h
      cases h

/-- Flattening remembers the references that it follows, and what it goes on with is smaller. -/
theorem guarded_recursion : (recursion document).Guarded Prod.fst
    fun c' c => Prod.Lex (· < ·) (· < ·) (measure document c'.2.node c'.1)
      (measure document c.2.node c.1) := by
  refine .of_calls (InvImage.wf (fun c : List String × Position => measure document c.2.node c.1)
    (WellFoundedRelation.wf (α := Nat × Nat))) ?_
  rintro ⟨seen, p⟩ followed c' h
  rcases calls_recursion h with ⟨v, ref, target, hv, href, hseen, htarget, rfl, rfl⟩ |
    ⟨members, m, i, hmembers, hm, rfl, rfl⟩
  · have hmem : ref ∈ p.node.references := by
      rcases hv with rfl | hv
      · exact Value.mem_references_of_get? href
      · exact hv.2 (Value.mem_references_of_get? href)
    refine ⟨measure_lt_of_reference htarget hmem hseen, List.subset_cons_self _ _, ?_⟩
    intro ref' heq
    cases heq
    exact ⟨hseen, List.mem_cons_self⟩
  · have hpart := isPart_of_mem_allOfMembers hmembers (List.mem_of_getElem? hm)
    exact ⟨measure_lt_of_isPart hpart (List.subset_cons_self _ _), List.subset_cons_self _ _,
      fun ref heq => by cases heq⟩

/-! ## Flattening is computed -/

/-- What calls of flattening are answered with. -/
abbrev answer (document : Value) (c : List String × Position) : Except Failure (List Declaration) :=
  collect document c.1 c.2

theorem value_atReference {r : Value} :
    (atReference document seen r).value (answer document) =
      match _hs : r.soughtReference with
      | .error e => .error e
      | .ok ref =>
        if _hn : ref ∈ seen then .ok []
        else
          match _ht : Pointer.resolve document ref with
          | .error e => .error (.document e)
          | .ok target => collect document (ref :: seen) ⟨target, ref⟩ := by
  unfold atReference
  rw [Body.value_bind, Body.value_ends]
  cases r.soughtReference with
  | error e => rfl
  | ok ref =>
    dsimp only [bind, Except.bind]
    split
    · rfl
    cases Pointer.resolve document ref with
    | error e => rfl
    | ok target =>
      exact Body.value_call (f := answer document) (some ref) (ref :: seen, ⟨target, ref⟩)

theorem value_atMember {pointer : String} {m : Value} {i : Nat} :
    (atMember document seen pointer m i).value (answer document) =
      match _hr : m.get? referenceKey with
      | none =>
        collect document (Pointer.item pointer "allOf" i :: seen)
          ⟨m, Pointer.item pointer "allOf" i⟩
      | some r => (atReference document seen r).value (answer document) := by
  unfold atMember
  split
  · next h =>
    rw [h]
    exact Body.value_call (f := answer document) none
      (Pointer.item pointer "allOf" i :: seen, ⟨m, Pointer.item pointer "allOf" i⟩)
  · next h => rw [h]

theorem zipIdx_attach {α : Type} (l : List α) :
    l.attach.zipIdx.map (fun e => (e.1.val, e.2)) = l.zipIdx := by
  have h : (l.attach.map Subtype.val).zipIdx = l.attach.zipIdx.map (Prod.map Subtype.val id) :=
    List.zipIdx_map
  rw [List.attach_map_subtype_val] at h
  exact h.symm

theorem computes_collect : (recursion document).Computes (answer document) := by
  rintro ⟨seen, p⟩
  unfold recursion
  dsimp only
  rw [answer, collect]
  split
  · rfl
  split
  · next r hr =>
    rw [hr]
    exact value_atReference.symm
  · next hr =>
    rw [hr]
    dsimp only
    rw [Body.value_bind, Body.value_ends]
    split
    · next e he =>
      rw [he]
      rfl
    · next members hmembers =>
      rw [hmembers]
      simp only [Body.value_bind, Body.value_mapM, Body.value_ends, Body.value_pure, value_atMember]
      show _ = members.zipIdx.mapM _ >>= _
      rw [← zipIdx_attach members, List.mapM_map]
      simp only [value_atReference]
      rfl

/-! ## Positions of declarations -/

theorem mem_of_mem_set {d e : Declaration} {l : List Declaration} (h : e ∈ d.set l) :
    e = d ∨ e ∈ l := by
  induction l with
  | nil => exact .inl (List.mem_singleton.1 h)
  | cons d' l ih =>
    rw [set] at h
    split at h
    · rcases List.mem_cons.1 h with rfl | h
      · exact .inl rfl
      · exact .inr (List.mem_cons_of_mem _ h)
    · rcases List.mem_cons.1 h with rfl | h
      · exact .inr List.mem_cons_self
      · exact (ih h).imp_right (List.mem_cons_of_mem _)

/-- Merging leaves only declarations that were there. -/
theorem mem_of_mem_merge {e : Declaration} {l : List Declaration} (h : e ∈ merge l) : e ∈ l := by
  have hfold : ∀ (l acc : List Declaration), e ∈ l.foldl (fun acc d => d.set acc) acc →
      e ∈ acc ∨ e ∈ l := by
    intro l
    induction l with
    | nil => exact fun _ h => .inl h
    | cons d l ih =>
      intro acc h
      rcases ih _ h with h | h
      · rcases mem_of_mem_set h with rfl | h
        · exact .inr List.mem_cons_self
        · exact .inl h
      · exact .inr (List.mem_cons_of_mem d h)
  exact (hfold l [] h).resolve_left List.not_mem_nil

theorem get?_of_allOfMembers {node v : Value} {members : List Value}
    (h : allOfMembers node = .ok members) (hv : v ∈ members) :
    node.get? "allOf" = some (.list members) := by
  unfold allOfMembers at h
  split at h
  · next hl =>
    cases h
    exact get?_of_listAt? hl
  · obtain ⟨l, -, rfl⟩ := map_eq_ok (f := fun _ => []).1 h
    cases hv

/-- A declaration is passed on to where it is used if its position has a property. -/
abbrev Passes (good : Position → Prop) (c : List String × Position) (l : List Declaration) : Prop :=
  good c.2 → ∀ d ∈ l, good d.position

section inherited

variable {good : Position → Prop} (hgood : Position.Inherited document good)

include hgood

theorem ensures_atReference {seen : List String} {p : Position} {r : Value} (hp : good p)
    (hr : p.node.get? referenceKey = some r) :
    (atReference document seen r).Ensures (Passes good) fun l => ∀ d ∈ l, good d.position := by
  refine Body.ensures_bind (P := fun ref => r = .str ref)
    (fun ref href => Value.eq_str_of_soughtReference href) ?_
  rintro ref rfl
  split
  · exact Body.ensures_pure fun d hd => (List.not_mem_nil hd).elim
  · refine Body.ensures_bind (P := fun target => Pointer.resolve document ref = .ok target)
      (fun target h => mapError_eq_ok.1 h) fun target htarget => ?_
    exact Body.ensures_call fun l hl => hl (hgood.reference hp hr htarget)

theorem ensures_recursion (c : List String × Position) :
    (recursion document c).Ensures (Passes good) (Passes good c) := by
  obtain ⟨seen, p⟩ := c
  refine Body.ensures_of_imp fun hp => ?_
  unfold recursion
  dsimp only
  split
  · exact Body.ensures_pure fun d hd => (List.not_mem_nil hd).elim
  split
  · next r hr => exact ensures_atReference hgood hp hr
  next hnone =>
  refine Body.ensures_bind (P := fun members => allOfMembers p.node = .ok members)
    (fun members h => h) fun members hmembers => ?_
  refine Body.ensures_bind (Body.ensures_mapM (P := fun l => ∀ d ∈ l, good d.position)
    ?_) fun inherited hinherited => ?_
  · rintro ⟨m, i⟩ hm
    have hm : members[i]? = some m := List.mem_zipIdx_iff_getElem?.1 hm
    have hallOf := get?_of_allOfMembers hmembers (List.mem_of_getElem? hm)
    have hmember := hgood.part hp hnone (.member (by decide) hallOf hm)
    dsimp only
    unfold atMember
    split
    · exact Body.ensures_call fun l hl => hl hmember
    · next r hr => exact ensures_atReference hgood hmember hr
  refine Body.ensures_bind (P := fun _ => True) (fun _ _ => trivial) fun required _ => ?_
  refine Body.ensures_pure fun d hmerged => ?_
  rcases List.mem_append.1 (mem_of_mem_merge hmerged) with h | h
  · obtain ⟨l, hl, hdl⟩ := List.mem_flatten.1 h
    exact hinherited l hl d hdl
  · unfold own at h
    split at h
    · next entries hentries =>
      obtain ⟨⟨name, v⟩, hv, rfl⟩ := List.mem_map.1 h
      exact hgood.part hp hnone (.property hentries hv)
    · cases h

/-- The properties of a schema stand where what references and parts inherit from it holds. -/
theorem good_of_ofSchema (hp : good p) {l : List Declaration} (h : ofSchema document p = .ok l) :
    ∀ d ∈ l, good d.position :=
  Recursion.ensures (c := ([], p)) computes_collect guarded_recursion (ensures_recursion hgood) h hp

end inherited

/-- The properties of a located schema are located. -/
theorem located_of_ofSchema (hd : document.hasTextKeys = true)
    (hindices : document.hasIndices = true) (hp : p.Located document)
    {l : List Declaration} (h : ofSchema document p = .ok l) :
    ∀ d ∈ l, d.position.Located document :=
  good_of_ofSchema (Position.inherited_located hd hindices) hp h

end Declaration

end ClientPlan
