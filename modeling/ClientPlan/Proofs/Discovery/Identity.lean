import ClientPlan.Proofs.Api.Reader
import ClientPlan.Proofs.Discovery.Reachable

/-!
# One place for each identity

A visit is recognised by a text, so it matters that no text stands for two places.  In a document
with text keys whose references name components none does (`StandsFor.unique`): the segments of an
inline pointer lead to one node, and they are not those of the pointer of a component.
-/

set_option autoImplicit false

namespace ClientPlan

/-! ## Pointers to components -/

theorem component_eq_join (key : String) :
    componentStart ++ Pointer.escape key = Pointer.join "#" ["components", "schemas", key] := by
  refine String.toList_inj.1 ?_
  have hstart : componentStart.toList =
      "#".toList ++ (Pointer.trail ["components", "schemas"] ++ ['/']) := by decide
  have hkey : Pointer.trail [key] = '/' :: (Pointer.escape key).toList := by
    rw [Pointer.escape, String.toList_ofList]
    exact List.append_nil _
  calc (componentStart ++ Pointer.escape key).toList
      = componentStart.toList ++ (Pointer.escape key).toList := String.toList_append
    _ = "#".toList ++ (Pointer.trail ["components", "schemas"] ++ Pointer.trail [key]) := by
        rw [hstart, hkey, List.append_assoc, List.append_assoc, List.singleton_append]
    _ = "#".toList ++ Pointer.trail ["components", "schemas", key] := by
        rw [Pointer.trail, Pointer.trail, ← List.flatMap_append]
        rfl
    _ = (Pointer.join "#" ["components", "schemas", key]).toList :=
        (Pointer.toList_join (by decide) _).symm

theorem segments?_component (key : String) :
    Pointer.segments? (componentStart ++ Pointer.escape key) = some (componentPath key) := by
  rw [component_eq_join, Pointer.segments?_join (show Pointer.segments? "#" = some [] from rfl)]
  rfl

/-! ## Parts are located -/

namespace Position

variable {document : Value} {p q m : Position} {path : List String}

/-- The parts of a located position are located further down. -/
theorem At.part (h : p.At document path) (hd : document.hasTextKeys = true)
    (hindices : document.hasIndices = true) (hm : p.Part m) :
    ∃ more, more ≠ [] ∧ m.At document (path ++ more) := by
  cases hm with
  | @property entries name v hp hv =>
    have hkeys := Value.everyMap_get? (h.hasTextKeys hd) hp
    obtain ⟨key, rfl, hkey⟩ := lookupText_of_mem (textKeyed_of_hasTextKeys hkeys) hv
    exact ⟨["properties", key], List.cons_ne_nil _ _, h.join_pair hp hkey⟩
  | items hp => exact ⟨["items"], List.cons_ne_nil _ _, h.field hp⟩
  | additional hp => exact ⟨["additionalProperties"], List.cons_ne_nil _ _, h.field hp⟩
  | @member keyword members i v hk hp hv =>
    refine ⟨[keyword, toString i], List.cons_ne_nil _ _, h.join [keyword, .index i] ?_⟩
    have hcounted := Value.isCounted_of_hasIndices (Value.hasIndices_get? (h.hasIndices hindices) hp)
    exact At.locate?_pair (At.descend?_of_get? hp) (Pointer.itemNamed?_toString hcounted hv)
  | negation hp => exact ⟨["not"], List.cons_ne_nil _ _, h.field hp⟩

/-- A position is located, and not at the pointer of a component unless it is a reference. -/
structure Inline (document : Value) (p : Position) (path : List String) : Prop where
  /-- The pointer leads to the node. -/
  located : p.At document path
  /-- It has as many segments as the pointer of a component. -/
  deep : 3 ≤ path.length
  /-- It is not the pointer of a component. -/
  inline : p.node.get? referenceKey = none → ∀ key, path ≠ componentPath key

end Position

/-- A schema of an endpoint is located, if there is one. -/
theorem Endpoint.Located.at_content {document : Value} {e : Endpoint} {p : Position}
    (h : e.Located document) (hp : e.HasSchema p) (hmap : p.node.isMap = true) :
    ∃ (path : List String) (key : String), p.At document (path ++ ["content", key, "schema"]) := by
  cases hp with
  | body hb hm => exact h.body _ hb _ _ hm hmap
  | response hr hc hm => exact h.response _ _ _ hr hc _ _ hm hmap

/-! ## References that name components -/

/-- Whether some entries are no reference or one to a component. -/
def namesComponent (entries : Entries) : Bool :=
  match lookupText referenceKey entries with
  | none => true
  | some (.str ref) => ref == componentStart ++ Pointer.escape ((componentName? ref).getD "")
  | some _ => false

theorem exists_key_of_namesComponent {v r : Value} (h : v.everyMap namesComponent = true)
    (hr : v.get? referenceKey = some r) :
    ∃ key, r = .str (componentStart ++ Pointer.escape key) := by
  cases v with
  | map entries =>
    have htest := Value.test_of_everyMap h
    rw [Value.get?] at hr
    rw [namesComponent, hr] at htest
    cases r with
    | str ref =>
      refine ⟨(componentName? ref).getD "", ?_⟩
      rw [← eq_of_beq htest]
    | _ => cases htest
  | _ => cases hr

/-- What every mapping passes, every mapping inside a part passes. -/
theorem Position.Part.everyMap {test : Entries → Bool} {p m : Position} (h : p.Part m)
    (hp : p.node.everyMap test = true) : m.node.everyMap test = true := by
  cases h with
  | property h hv => exact Value.everyMap_of_mem_entries (Value.everyMap_get? hp h) hv
  | items h => exact Value.everyMap_get? hp h
  | additional h => exact Value.everyMap_get? hp h
  | member hk h hv =>
    exact Value.everyMap_of_mem (Value.everyMap_get? hp h) (List.mem_of_getElem? hv)
  | negation h => exact Value.everyMap_get? hp h

namespace Setting

variable {s : Setting} {p : Position}

/-- What every mapping of the document passes, every mapping that is met passes. -/
theorem Meets.everyMap {test : Entries → Bool} (hd : s.api.document.everyMap test = true)
    (hl : ∀ e ∈ s.api.endpoints, e.Located s.api.document) (hp : s.Meets p)
    (hmap : p.node.isMap = true) : p.node.everyMap test = true := by
  induction hp with
  | @root e p he hincluded hp =>
    obtain ⟨path, key, hat⟩ := (hl e he).at_content hp hmap
    exact Pointer.everyMap_locate? hd hat.located
  | @chain p q declared hp hq hr href ih =>
    cases hq with
    | node hmap' hnone => exact ih hmap'
    | reference href' htarget hmap' =>
      obtain ⟨path, hat⟩ := Position.At.of_resolve htarget
      exact Pointer.everyMap_locate? hd hat.located
  | @part p q m declared hp hq hr href hm ih =>
    cases hq with
    | node hmap' hnone => exact hm.everyMap (ih hmap')
    | reference href' htarget hmap' =>
      obtain ⟨path, hat⟩ := Position.At.of_resolve htarget
      exact hm.everyMap (Pointer.everyMap_locate? hd hat.located)

/-- If all references of a document name components, so do those that are met. -/
theorem exists_key_of_everyMap (hd : s.api.document.everyMap namesComponent = true)
    (hl : ∀ e ∈ s.api.endpoints, e.Located s.api.document) (hp : s.Meets p) {r : Value}
    (hr : p.node.get? referenceKey = some r) :
    ∃ key, r = .str (componentStart ++ Pointer.escape key) :=
  exists_key_of_namesComponent (hp.everyMap hd hl (Value.isMap_of_get? hr)) hr

end Setting

/-! ## One place for each text -/

namespace Setting

variable {s : Setting} {f f' : Found} {p q p' q' m : Position} {more : List Position}
  {declared declared' : Option String}

/-- The description is that of a document with text keys and indices in which every reference that
is met names a component. -/
structure SelfContained (s : Setting) : Prop where
  /-- All keys are texts. -/
  textKeys : s.api.document.hasTextKeys = true
  /-- All lists have indices. -/
  indices : s.api.document.hasIndices = true
  /-- The schemas of the endpoints stand in the document. -/
  located : ∀ e ∈ s.api.endpoints, e.Located s.api.document
  /-- References name components. -/
  references : ∀ p r, s.Meets p → p.node.get? referenceKey = some r →
    ∃ key, r = .str (componentStart ++ Pointer.escape key)

/-- What a reference that is met leads to stands at the pointer of a component. -/
theorem SelfContained.at_component (hs : s.SelfContained) (hp : s.Meets p) {ref : String}
    {target : Value} (href : p.node.get? referenceKey = some (.str ref))
    (htarget : Pointer.resolve s.api.document ref = .ok target) :
    ∃ key, Position.At s.api.document ⟨target, ref⟩ (componentPath key) := by
  obtain ⟨key, hkey⟩ := hs.references p _ hp href
  cases hkey
  obtain ⟨path, hpath⟩ := Position.At.of_resolve htarget
  have hpath' : path = componentPath key :=
    Option.some.inj (hpath.segments.symm.trans (segments?_component key))
  exact ⟨key, hpath' ▸ hpath⟩

/-- What stands for a position that is met is located at least as deep as a component. -/
theorem SelfContained.at_place (hs : s.SelfContained) (hp : s.Meets p)
    (hq : s.StandsFor p q declared)
    (hinline : p.node.isMap = true → ∃ path, p.Inline s.api.document path) :
    ∃ path, q.At s.api.document path ∧ 3 ≤ path.length := by
  cases hq with
  | node hmap href =>
    obtain ⟨path, hpath⟩ := hinline hmap
    exact ⟨path, hpath.located, hpath.deep⟩
  | reference href htarget hmap =>
    obtain ⟨key, hkey⟩ := hs.at_component hp href htarget
    exact ⟨componentPath key, hkey, Nat.le_refl 3⟩

/-- Every mapping that is met is located. -/
theorem SelfContained.inline (hs : s.SelfContained) (hp : s.Meets p) (hmap : p.node.isMap = true) :
    ∃ path, p.Inline s.api.document path := by
  induction hp with
  | @root e p he hincluded hp =>
    obtain ⟨path, key, hat⟩ := (hs.located e he).at_content hp hmap
    refine ⟨_, hat, by simp, fun _ key' heq => ?_⟩
    cases path with
    | nil =>
      have hhead := (List.cons.inj heq).1
      revert hhead
      decide
    | cons segment path =>
      have hlength := congrArg List.length heq
      simp [componentPath] at hlength
  | @chain p q declared hp hq hr href ih =>
    cases hq with
    | node hmap' hnone =>
      rw [Value.has, hnone] at href
      cases href
    | reference href' htarget hmap' =>
      obtain ⟨key, hkey⟩ := hs.at_component hp href' htarget
      refine ⟨_, hkey, Nat.le_refl 3, fun hnone => ?_⟩
      rw [Value.has, hnone] at href
      cases href
  | @part p q m declared hp hq hr href hm ih =>
    obtain ⟨path, hpath, hdeep⟩ := hs.at_place hp hq ih
    obtain ⟨more, hmore, hat⟩ := hpath.part hs.textKeys hs.indices hm
    have hpos := List.length_pos_of_ne_nil hmore
    refine ⟨_, hat, by rw [List.length_append]; omega, fun _ key heq => ?_⟩
    have hlength := congrArg List.length heq
    rw [List.length_append, show (componentPath key).length = 3 from rfl] at hlength
    omega

/-- No inline node stands at the pointer of a component. -/
theorem SelfContained.ne_component (hs : s.SelfContained) (hp : s.Meets p)
    (hmap : p.node.isMap = true) (href : p.node.get? referenceKey = none) {ref : String}
    {key : String} {target : Value}
    (hkey : Position.At s.api.document ⟨target, ref⟩ (componentPath key)) : p.pointer ≠ ref := by
  intro heq
  obtain ⟨path, hpath⟩ := hs.inline hp hmap
  have hsegments := hpath.located.segments
  rw [heq, hkey.segments] at hsegments
  exact hpath.inline href key (Option.some.inj hsegments).symm

/-- Two places with one identity are one place, under one name. -/
theorem StandsFor.unique (hs : s.SelfContained) (hp : s.Meets p) (hq : s.StandsFor p q declared)
    (hp' : s.Meets p') (hq' : s.StandsFor p' q' declared') (h : q.pointer = q'.pointer) :
    q = q' ∧ declared = declared' := by
  cases hq with
  | node hmap href =>
    cases hq' with
    | node hmap' href' =>
      obtain ⟨path, hpath⟩ := hs.inline hp hmap
      obtain ⟨path', hpath'⟩ := hs.inline hp' hmap'
      have heq : p = p' := hpath.located.eq_of_pointer_eq hpath'.located h
      exact ⟨heq, congrArg _ heq⟩
    | reference href' htarget' hmap' =>
      obtain ⟨key, hkey⟩ := hs.at_component hp' href' htarget'
      exact absurd h (hs.ne_component hp hmap href hkey)
  | @reference ref target href htarget hmap =>
    cases hq' with
    | node hmap' href' =>
      obtain ⟨key, hkey⟩ := hs.at_component hp href htarget
      exact absurd h.symm (hs.ne_component hp' hmap' href' hkey)
    | @reference ref' target' href' htarget' hmap' =>
      have href_eq : ref = ref' := h
      subst href_eq
      rw [htarget] at htarget'
      cases htarget'
      exact ⟨rfl, rfl⟩

/-- A reference that leads to no mapping is the identity of no place. -/
theorem StandsFor.pointer_ne_dead (hs : s.SelfContained) (hp : s.Meets p)
    (hq : s.StandsFor p q declared) {ref : String} {v : Value} (hm : s.Meets m)
    (href : m.node.get? referenceKey = some (.str ref))
    (htarget : Pointer.resolve s.api.document ref = .ok v) (hmap : v.isMap = false) :
    q.pointer ≠ ref := by
  intro heq
  cases hq with
  | node hmap' href' =>
    obtain ⟨key, hkey⟩ := hs.at_component hm href htarget
    exact hs.ne_component hp hmap' href' hkey heq
  | @reference ref' target href' htarget' hmap' =>
    have href_eq : ref' = ref := heq
    subst href_eq
    rw [htarget] at htarget'
    cases htarget'
    rw [hmap] at hmap'
    cases hmap'

/-- What stands for a position that is met has an identity. -/
theorem SelfContained.placed (hs : s.SelfContained) (hp : s.Meets p)
    (hq : s.StandsFor p q declared) : q.pointer ≠ "" := by
  obtain ⟨path, hpath, -⟩ := hs.at_place hp hq (hs.inline hp)
  intro heq
  have hsegments := hpath.segments
  rw [heq] at hsegments
  cases hsegments

end Setting

end ClientPlan
