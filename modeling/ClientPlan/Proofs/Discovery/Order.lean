import ClientPlan.Proofs.Discovery.Completeness
import ClientPlan.Proofs.Discovery.Sweep

/-!
# The order of paths

The order of the paths decides which identity comes first under a name.  Which identities are
collected, and under which names, does not depend on it (`schemaNames_eq_of_perm`), as long as no
text is the identity of two nodes and a node is not named differently by itself and by a reference
to it.  The latter is possible inside a component, since a reference to a place in there is named
after the whole rest of its pointer (`schemaNames_ne_of_perm`).
-/

set_option autoImplicit false

namespace ClientPlan

namespace Registration

/-- A registration depends on a declared name only through its type case. -/
theorem Describes.rename {r : Registration} {q : Position} {declared declared' : Option String}
    (h : r.Describes q declared)
    (hname : Naming.typeName (declared.getD "") = Naming.typeName (declared'.getD "")) :
    r.Describes q declared' where
  identity := h.identity
  finalName := h.finalName.trans hname
  placed := h.placed
  named := h.named
  node := h.node

end Registration

namespace Setting

variable {s : Setting} {f f' : Found} {p q p' m : Position} {more rest passed work : List Position}
  {todo : List Endpoint} {log : List Registration} {declared declared' : Option String}
  {paths : OrderedMap String PathItem}

/-! ## One name for each place -/

/-- A node that is met by itself, and by a reference to it as if it were a component, has one
name. -/
def NamesAlike (s : Setting) : Prop :=
  ∀ m p key, s.Meets m → m.node.isMap = true → m.node.get? referenceKey = none → s.Meets p →
    p.node.get? referenceKey = some (.str m.pointer) → componentName? m.pointer = some key →
      Naming.typeName key = Naming.typeName ((s.policy.schemaName m).getD "")

/-- A reference to a node gives it the name that it has by itself. -/
theorem NamesAlike.declaredName (h : s.NamesAlike) (hm : s.Meets m) (hmap : m.node.isMap = true)
    (hnone : m.node.get? referenceKey = none) (hp : s.Meets p)
    (href : p.node.get? referenceKey = some (.str m.pointer)) :
    Naming.typeName ((s.declaredName m).getD "") =
      Naming.typeName ((s.policy.schemaName m).getD "") := by
  unfold Setting.declaredName
  split
  · next key hkey => exact h m p key hm hmap hnone hp href hkey
  · rfl

/-- A place has one name, however it is met. -/
theorem NamesAlike.typeName_eq (h : s.NamesAlike) (hp : s.Meets p) (hq : s.StandsFor p q declared)
    (hp' : s.Meets p') (hq' : s.StandsFor p' q declared') :
    Naming.typeName (declared.getD "") = Naming.typeName (declared'.getD "") := by
  cases hq with
  | node hmap hnone =>
    cases hq' with
    | node hmap' hnone' => rfl
    | reference href htarget hmap' => exact (h.declaredName hp hmap hnone hp' href).symm
  | reference href htarget hmap =>
    cases hq' with
    | node hmap' hnone' => exact h.declaredName hp' hmap' hnone' hp href
    | reference href' htarget' hmap' => rfl

theorem NamesAlike.rejectsAlike (h : s.NamesAlike) : s.RejectsAlike := by
  rintro p p' q declared declared' hp hq hp' hq' ⟨r, hr, ha⟩
  exact ⟨r, hr.rename (h.typeName_eq hp hq hp' hq'), ha⟩

/-- If all references name components, no node is met both by itself and by a reference. -/
theorem SelfContained.namesAlike (h : s.SelfContained) : s.NamesAlike := by
  rintro m p key hm hmap hnone hp href -
  obtain ⟨key', hkey'⟩ := h.references p _ hp href
  have hpointer : m.pointer = componentStart ++ Pointer.escape key' := Value.str.inj hkey'
  obtain ⟨path, hpath⟩ := h.inline hm hmap
  have hsegments := hpath.located.segments
  rw [hpointer, segments?_component] at hsegments
  exact absurd (Option.some.inj hsegments).symm (hpath.inline hnone key')

/-! ## What has been registered -/

/-- How far a discovery has come, with a log of what it has registered. -/
structure Gathered (s : Setting) (todo : List Endpoint) (work passed : List Position) (f : Found)
    (log : List Registration) : Prop where
  /-- The passed positions are followed by what is below them. -/
  swept : s.Swept todo work passed f
  /-- What has been found is made from the log. -/
  recorded : s.Recorded log f
  /-- What is collected at a passed position is registered. -/
  collected : ∀ p ∈ passed, ∀ q declared r, s.StandsFor p q declared → s.Collects q declared r →
    r ∈ log

/-- What is collected at a place whose identity is remembered is registered. -/
theorem Gathered.mem_log_of_visited (h : s.Gathered todo work passed f log) (hone : s.OneNode)
    (hnames : s.NamesAlike) (hp : s.Meets p) (hq : s.StandsFor p q declared)
    (hv : q.pointer ∈ f.visited) {r : Registration} (hr : s.Collects q declared r) : r ∈ log := by
  obtain ⟨p₀, hp₀, hi⟩ := h.swept.identified _ hv
  have hmet := h.swept.met p₀ hp₀
  cases hi with
  | @place q₀ declared₀ hq₀ hpointer hplace =>
    obtain rfl : q = q₀ := hone.eq hp hq hmet hq₀ hplace hpointer.symm
    have hname := hnames.typeName_eq hp hq hmet hq₀
    exact h.collected p₀ hp₀ q declared₀ r hq₀ ⟨hr.1.rename hname, hr.2⟩
  | dead href htarget hmap => exact absurd rfl (hone.dead hp hq hmet href htarget hmap)

/-- Every visit registers what is collected at its position. -/
theorem Gathered.of_visits (h : s.Gathered todo (p :: rest) passed f log) (hone : s.OneNode)
    (hnames : s.NamesAlike) (hp : s.Meets p) (hv : s.Visits f p more f') :
    ∃ log', s.Gathered todo (more ++ rest) (p :: passed) f' log' := by
  have hswept := h.swept.of_visits hone hnames.rejectsAlike hp hv
  -- Only a visit that records its place makes the log longer.
  have hkeep (hrecorded : s.Recorded log f')
      (hp : ∀ q declared r, s.StandsFor p q declared → s.Collects q declared r → r ∈ log) :
      ∃ log', s.Gathered todo (more ++ rest) (p :: passed) f' log' :=
    ⟨log, hswept, hrecorded, List.forall_mem_cons.2 ⟨hp, h.collected⟩⟩
  cases hv with
  | notMap hmap =>
    refine hkeep h.recorded fun q declared r hq _ => ?_
    rw [hq.source_isMap] at hmap
    cases hmap
  | again hi hv =>
    refine hkeep h.recorded fun q declared r hq hr => ?_
    exact h.mem_log_of_visited hone hnames hp hq (hq.pointer_eq hi ▸ hv) hr
  | dead href hv htarget hmap =>
    refine hkeep (h.recorded.visit _) fun q declared r hq _ => ?_
    exact absurd (hq.pointer_eq (.inl href)) (hone.dead hp hq hp href htarget hmap)
  | unplaced hq hplace =>
    refine hkeep h.recorded fun q' declared' r hq' hr => ?_
    obtain ⟨rfl, rfl⟩ := hq.det hq'
    exact absurd hplace hr.1.placed
  | unnamed hq hplace hv hname =>
    refine hkeep (h.recorded.visit _) fun q' declared' r hq' hr => ?_
    obtain ⟨rfl, rfl⟩ := hq.det hq'
    exact absurd (hr.1.finalName.trans hname) hr.1.named
  | rejected hq hv hr ha =>
    refine hkeep (h.recorded.visit _) fun q' declared' r' hq' hr' => ?_
    obtain ⟨rfl, rfl⟩ := hq.det hq'
    exact absurd hr' (not_collects_of_rejects ⟨_, hr, ha⟩)
  | @recorded q declared r hq hv hr ha =>
    have hrecorded := h.recorded.record ⟨p, q, declared, hp, hq, hr, ha⟩ (hr.identity ▸ hv)
    rw [hr.identity] at hrecorded
    refine ⟨log ++ [r], hswept, hrecorded, List.forall_mem_cons.2 ⟨?_, ?_⟩⟩
    · intro q' declared' r' hq' hr'
      obtain ⟨rfl, rfl⟩ := hq.det hq'
      rw [hr'.1.eq hr]
      exact List.mem_append_right _ (List.mem_singleton_self r)
    · intro p' hp' q' declared' r' hq' hr'
      exact List.mem_append_left _ (h.collected p' hp' q' declared' r' hq' hr')

theorem gathered_of_discover (hone : s.OneNode) (hnames : s.NamesAlike)
    (h : s.discover OrderedMap.empty OrderedMap.empty = .ok f) :
    ∃ passed log, s.Gathered [] [] passed f log := by
  have hstart : s.Gathered s.api.endpoints [] [] ⟨[], OrderedMap.empty, OrderedMap.empty⟩ [] :=
    ⟨Swept.init, ⟨rfl, rfl, List.nil_subset _, List.nodup_nil,
      fun r hr => (List.not_mem_nil hr).elim⟩, fun p hp => (List.not_mem_nil hp).elim⟩
  refine discover_induction
    (P := fun todo work f => ∃ passed log, s.Gathered todo work passed f log)
    ?_ ?_ ?_ ⟨[], [], hstart⟩ h
  · rintro todo p rest f more f' hp ⟨passed, log, hlog⟩ hv
    exact ⟨p :: passed, hlog.of_visits hone hnames hp hv⟩
  · rintro e todo f ⟨passed, log, hlog⟩ -
    exact ⟨passed, log, hlog.swept.enter, hlog.recorded, hlog.collected⟩
  · rintro e todo f ⟨passed, log, hlog⟩ hexcluded
    exact ⟨passed, log, hlog.swept.leave hexcluded, hlog.recorded, hlog.collected⟩

/-- When nothing is left, what is registered is what is collected at the places of positions that
are met. -/
theorem Gathered.mem_log_iff (h : s.Gathered [] [] passed f log) {r : Registration} :
    r ∈ log ↔ ∃ p q declared, s.Meets p ∧ s.StandsFor p q declared ∧ s.Collects q declared r := by
  constructor
  · intro hr
    obtain ⟨p, q, declared, hp, hq, hd, ha⟩ := h.recorded.origin r hr
    exact ⟨p, q, declared, hp, hq, hd, ha⟩
  · rintro ⟨p, q, declared, hp, hq, hr⟩
    exact h.collected p (h.swept.mem_passed hp) q declared r hq hr

/-! ## Paths in another order -/

/-- The same setting with other paths. -/
def withPaths (s : Setting) (paths : OrderedMap String PathItem) : Setting :=
  { s with api := { s.api with paths } }

theorem StandsFor.withPaths (h : s.StandsFor p q declared) (paths : OrderedMap String PathItem) :
    (s.withPaths paths).StandsFor p q declared := by
  cases h with
  | node hmap href => exact .node hmap href
  | reference href htarget hmap => exact .reference href htarget hmap

/-- What is met does not depend on the order of the paths. -/
theorem Meets.withPaths (hpaths : paths.entries.Perm s.api.paths.entries) (h : s.Meets p) :
    (s.withPaths paths).Meets p := by
  induction h with
  | @root e p he hincluded hp =>
    refine .root ?_ hincluded hp
    exact ((hpaths.map Prod.snd).flatMap_right PathItem.endpoints).mem_iff.2 he
  | chain hp hq hr href ih => exact .chain ih (hq.withPaths paths) hr href
  | part hp hq hr href hm ih => exact .part ih (hq.withPaths paths) hr href hm

/-- A position is met, whatever the order of the paths. -/
theorem meets_withPaths_iff (hpaths : paths.entries.Perm s.api.paths.entries) :
    (s.withPaths paths).Meets p ↔ s.Meets p :=
  ⟨Meets.withPaths (s := s.withPaths paths) hpaths.symm, Meets.withPaths hpaths⟩

theorem standsFor_withPaths_iff :
    (s.withPaths paths).StandsFor p q declared ↔ s.StandsFor p q declared :=
  ⟨fun h => h.withPaths s.api.paths, fun h => h.withPaths paths⟩

theorem OneNode.withPaths (h : s.OneNode) (hpaths : paths.entries.Perm s.api.paths.entries) :
    (s.withPaths paths).OneNode where
  place := by
    intro p q p' q' declared declared' hp hq hp' hq' hplace heq
    rw [meets_withPaths_iff hpaths] at hp hp'
    rw [standsFor_withPaths_iff] at hq hq'
    exact h.place hp hq hp' hq' hplace heq
  dead := by
    intro p q m declared ref v hp hq hm href htarget hmap
    rw [meets_withPaths_iff hpaths] at hp hm
    rw [standsFor_withPaths_iff] at hq
    exact h.dead hp hq hm href htarget hmap

theorem NamesAlike.withPaths (h : s.NamesAlike) (hpaths : paths.entries.Perm s.api.paths.entries) :
    (s.withPaths paths).NamesAlike := by
  intro m p key hm hmap hnone hp href hkey
  rw [meets_withPaths_iff hpaths] at hm hp
  exact h m p key hm hmap hnone hp href hkey

/-- The same registrations are made, whatever the order of the paths. -/
theorem mem_log_withPaths_iff {passed' : List Position} {log' : List Registration}
    (hpaths : paths.entries.Perm s.api.paths.entries) (h : s.Gathered [] [] passed f log)
    (h' : (s.withPaths paths).Gathered [] [] passed' f' log') {r : Registration} :
    r ∈ log' ↔ r ∈ log := by
  rw [h.mem_log_iff, h'.mem_log_iff]
  simp only [meets_withPaths_iff hpaths, standsFor_withPaths_iff]
  rfl

end Setting

/-- Schemas whose names are the same are the same, apart from the order of their identities. -/
theorem PlanState.NamesGrouped.identities_perm {p p' : PlanState} (h : p.NamesGrouped)
    (h' : p'.NamesGrouped) (hnames : ∀ i, p'.schemaNames.get? i = p.schemaNames.get? i)
    (name : String) :
    Option.Rel (fun schema schema' => schema.identities.Perm schema'.identities)
      (p.schemas.get? name) (p'.schemas.get? name) := by
  cases hs : p.schemas.get? name with
  | none =>
    cases hs' : p'.schemas.get? name with
    | none => exact .none
    | some schema' =>
      obtain ⟨i, hi⟩ := List.exists_mem_of_ne_nil _ (h'.nodup name schema' hs').1
      have hname := (h'.identities i name).2 ⟨schema', hs', hi⟩
      obtain ⟨schema, hschema, -⟩ := (h.identities i name).1 ((hnames i).symm.trans hname)
      rw [hs] at hschema
      cases hschema
  | some schema =>
    obtain ⟨i, hi⟩ := List.exists_mem_of_ne_nil _ (h.nodup name schema hs).1
    have hname := (h.identities i name).2 ⟨schema, hs, hi⟩
    obtain ⟨schema', hs', -⟩ := (h'.identities i name).1 ((hnames i).trans hname)
    rw [hs']
    refine .some ?_
    refine (List.perm_ext_iff_of_nodup (h.nodup name schema hs).2
      (h'.nodup name schema' hs').2).2 ?_
    intro j
    have hmem : j ∈ schema.identities ↔ p.schemaNames.get? j = some name := by
      rw [h.identities j name, hs]
      simp
    have hmem' : j ∈ schema'.identities ↔ p'.schemaNames.get? j = some name := by
      rw [h'.identities j name, hs']
      simp
    rw [hmem, hmem', hnames j]

/-- If no text is the identity of two nodes and a node has one name however it is met, the order of
the paths does not decide which identities are collected nor what their names are: it only decides
the order of the identities under a name. -/
theorem schemaNames_eq_of_perm {s : Setting} {paths : OrderedMap String PathItem}
    {p p' : PlanState} (hpaths : paths.entries.Perm s.api.paths.entries) (hone : s.OneNode)
    (hnames : s.NamesAlike) (h : s.start.discoverSchemas = .ok p)
    (h' : (s.withPaths paths).start.discoverSchemas = .ok p') :
    (∀ i, p'.schemaNames.get? i = p.schemaNames.get? i) ∧
      ∀ name, Option.Rel (fun schema schema' => schema.identities.Perm schema'.identities)
        (p.schemas.get? name) (p'.schemas.get? name) := by
  obtain ⟨f, hf, rfl⟩ := Setting.discoverSchemas_start_eq_ok.1 h
  obtain ⟨f', hf', rfl⟩ := Setting.discoverSchemas_start_eq_ok.1 h'
  obtain ⟨passed, log, hlog⟩ := Setting.gathered_of_discover hone hnames hf
  obtain ⟨passed', log', hlog'⟩ :=
    Setting.gathered_of_discover (hone.withPaths hpaths) (hnames.withPaths hpaths) hf'
  have heq : ∀ i, f'.names.get? i = f.names.get? i := by
    intro i
    refine Option.ext fun name => ?_
    rw [hlog.recorded.get?_names, hlog'.recorded.get?_names]
    simp only [Setting.mem_log_withPaths_iff hpaths hlog hlog']
  exact ⟨heq, hlog.recorded.namesGrouped.identities_perm hlog'.recorded.namesGrouped heq⟩

/-! ## Two requests in either order -/

/-- The map with its entries in the opposite order. -/
def OrderedMap.reversed {α β : Type} (m : OrderedMap α β) : OrderedMap α β :=
  ⟨m.entries.reverse, by rw [List.map_reverse]; exact List.nodup_reverse.2 m.nodup⟩

/-- A path whose requests are answered by a schema. -/
def answeredBy (schema : Value) : Value :=
  .ofFields [("get", .ofFields [("responses", .ofFields [("200", .ofFields [("content",
    .ofFields [("application/json", .ofFields [("schema", schema)])])])])])]

/-- A document in which requests at `/a` are answered by one schema and requests at `/b` by
another. -/
def answeringBoth (first second : Value) (components : List (String × Value)) : Value :=
  .ofFields [
    ("paths", .ofFields [("/a", answeredBy first), ("/b", answeredBy second)]),
    ("components", .ofFields [("schemas", .ofFields components)])]

/-- What is discovered in a document and, with its paths in the opposite order, once more. -/
theorem exists_discover_both (document : Value) (n : Nat) (test : Found → Found → Bool)
    (h : ((readApi document "3.0.3").toOption.any fun api =>
      ((defaultSetting api).discoverAllWithin n api.endpoints
        ⟨[], OrderedMap.empty, OrderedMap.empty⟩).any fun f =>
      (((defaultSetting api).withPaths api.paths.reversed).discoverAllWithin n
        ((defaultSetting api).withPaths api.paths.reversed).api.endpoints
        ⟨[], OrderedMap.empty, OrderedMap.empty⟩).any (test f)) = true) :
    ∃ api f f', readApi document "3.0.3" = .ok api ∧
      (defaultSetting api).discover OrderedMap.empty OrderedMap.empty = .ok f ∧
      ((defaultSetting api).withPaths api.paths.reversed).discover
        OrderedMap.empty OrderedMap.empty = .ok f' ∧ test f f' = true := by
  obtain ⟨api, f, hapi, hf, h⟩ := Setting.exists_discover document "3.0.3" defaultSetting n _
    (fun _ => rfl) h
  obtain ⟨f', hf', htest⟩ := (Option.any_eq_true _ _).1 h
  exact ⟨api, f, f', hapi, hf, Setting.discoverAll_of_discoverAllWithin hf', htest⟩

/-- A pet that is a component, and another one that is described where it is used. -/
def twoPets : Value :=
  let pet : Value := .ofFields [("type", .str "object"), ("title", .str "Pet")]
  answeringBoth (refTo "pet") pet [("pet", pet)]

/-- Two pets are one schema, and the order of the paths decides which of them comes first. -/
theorem schemaNames_eq_pets : ∃ (s : Setting) (paths : OrderedMap String PathItem)
    (p p' : PlanState) (schema schema' : Schema),
    paths.entries.Perm s.api.paths.entries ∧ s.start.discoverSchemas = .ok p ∧
    (s.withPaths paths).start.discoverSchemas = .ok p' ∧
    p.schemas.get? "Pet" = some schema ∧ p'.schemas.get? "Pet" = some schema' ∧
    schema.identities.head? = some "#/components/schemas/pet" ∧
    schema'.identities.head? ≠ some "#/components/schemas/pet" ∧
    schema.identities.Perm schema'.identities ∧
    ∀ i, p'.schemaNames.get? i = p.schemaNames.get? i := by
  obtain ⟨api, f, f', hapi, hf, hf', htest⟩ := exists_discover_both twoPets 4
    (fun f f' => (f.schemas.get? "Pet").any (fun schema =>
        schema.identities.head? == some "#/components/schemas/pet") &&
      (f'.schemas.get? "Pet").any fun schema =>
        schema.identities.head? != some "#/components/schemas/pet")
    (by decide +kernel)
  obtain ⟨hfirst, hfirst'⟩ := Bool.and_eq_true_iff.1 htest
  obtain ⟨schema, hschema, hfirst⟩ := (Option.any_eq_true _ _).1 hfirst
  obtain ⟨schema', hschema', hfirst'⟩ := (Option.any_eq_true _ _).1 hfirst'
  have hkeys : twoPets.hasTextKeys = true := by decide +kernel
  have hcomponents : twoPets.everyMap namesComponent = true := by decide +kernel
  obtain ⟨hdocument, hlocated⟩ := located_of_readApi hkeys hapi
  have hindices : twoPets.hasIndices = true := by decide +kernel
  rw [← hdocument] at hkeys hindices hcomponents hlocated
  have hs : (defaultSetting api).SelfContained := ⟨hkeys, hindices, hlocated, fun m r hm =>
    Setting.exists_key_of_everyMap hcomponents hlocated hm⟩
  have hpaths := api.paths.entries.reverse_perm
  have hp := Setting.discoverSchemas_start_eq_ok.2 ⟨f, hf, rfl⟩
  have hp' := Setting.discoverSchemas_start_eq_ok.2 ⟨f', hf', rfl⟩
  obtain ⟨hnames, hperm⟩ := schemaNames_eq_of_perm (s := defaultSetting api)
    hpaths (Setting.oneNode_of_located hkeys hindices hlocated) hs.namesAlike
    hp hp'
  have hpet := hperm "Pet"
  rw [show _ = some schema from hschema, show _ = some schema' from hschema'] at hpet
  cases hpet with
  | some hpet =>
    exact ⟨defaultSetting api, api.paths.reversed, _, _, schema, schema', hpaths, hp, hp', hschema,
      hschema', eq_of_beq hfirst, fun heq => bne_iff_ne.1 hfirst' heq, hpet, hnames⟩

/-- A component and a place inside it, which has a title. -/
def insideComponent : Value :=
  answeringBoth (refTo "A") (refTo "A/properties/x") [("A", .ofFields [("type", .str "object"),
    ("properties", .ofFields [("x", .ofFields [("type", .str "object"), ("title", .str "Foo")])])])]

/-- A node that is met by itself and by a reference into its component has a name that depends on
which comes first. -/
theorem schemaNames_ne_of_perm : ∃ (s : Setting) (paths : OrderedMap String PathItem)
    (p p' : PlanState), readApi insideComponent "3.0.3" = .ok s.api ∧ s.policy = .standard ∧
    paths.entries.Perm s.api.paths.entries ∧ s.start.discoverSchemas = .ok p ∧
    (s.withPaths paths).start.discoverSchemas = .ok p' ∧
    p.schemaNames.get? "#/components/schemas/A/properties/x" = some "Foo" ∧
    p'.schemaNames.get? "#/components/schemas/A/properties/x" = some "APropertiesX" := by
  obtain ⟨api, f, f', hapi, hf, hf', htest⟩ := exists_discover_both insideComponent 8
    (fun f f' => f.names.get? "#/components/schemas/A/properties/x" == some "Foo" &&
      f'.names.get? "#/components/schemas/A/properties/x" == some "APropertiesX")
    (by decide +kernel)
  obtain ⟨hname, hname'⟩ := Bool.and_eq_true_iff.1 htest
  exact ⟨defaultSetting api, api.paths.reversed, _, _, hapi, rfl, api.paths.entries.reverse_perm,
    Setting.discoverSchemas_start_eq_ok.2 ⟨f, hf, rfl⟩,
    Setting.discoverSchemas_start_eq_ok.2 ⟨f', hf', rfl⟩, eq_of_beq hname, eq_of_beq hname'⟩

end ClientPlan
