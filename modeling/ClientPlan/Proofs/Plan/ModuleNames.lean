import ClientPlan.Proofs.Plan.Bounded
import ClientPlan.Proofs.Plan.FilePlan

/-!
# Names of modules

Files are told apart by their modules, and a module is shown as its segments joined by dots.  The
segments of schemas and operations have no dots, so their modules can be read back from what is
shown.  The last segment of an interface is the suffix as it is configured.  If there are dots in
the suffix, the interface of one module can read like a module that lies deeper, and that is the
only way in which two files can show the same module (`nodup_shownModules_iff`).
-/

set_option autoImplicit false

namespace ClientPlan

/-! ## Parts between dots -/

/-- The parts of a text between dots, the empty ones included. -/
def betweenDots (s : String) : List String := (s.toList.splitOn '.').map String.ofList

/-- A text that is a segment by itself: it is not empty and has no dots. -/
def IsSegment (s : String) : Prop := s ≠ "" ∧ '.' ∉ s.toList

theorem isSegment_of_isAlphanum {s : String} (hne : s ≠ "")
    (h : ∀ c ∈ s.toList, c.isAlphanum = true) : IsSegment s :=
  ⟨hne, fun hdot => absurd (h '.' hdot) (by decide)⟩

/-- The parts of a dotted text are segments. -/
theorem isSegment_of_mem_dotParts {s part : String} (h : part ∈ dotParts s) : IsSegment part := by
  obtain ⟨hpart, hne⟩ := List.mem_filter.1 h
  obtain ⟨cs, hcs, rfl⟩ := List.mem_map.1 hpart
  refine ⟨bne_iff_ne.1 hne, ?_⟩
  rw [String.toList_ofList]
  exact not_mem_of_mem_splitOn hcs

/-- A text without dots is its only part. -/
theorem betweenDots_of_not_mem {s : String} (h : '.' ∉ s.toList) : betweenDots s = [s] := by
  rw [betweenDots, List.splitOn_eq_singleton h, List.map_singleton, String.ofList_toList]

theorem flatMap_betweenDots {segments : List String} (h : ∀ s ∈ segments, IsSegment s) :
    segments.flatMap betweenDots = segments := by
  induction segments with
  | nil => rfl
  | cons s r ih =>
    rw [List.forall_mem_cons] at h
    rw [List.flatMap_cons, betweenDots_of_not_mem h.1.2, ih h.2, List.singleton_append]

/-- A text can be put together again from its parts. -/
theorem intercalate_betweenDots (s : String) : ".".intercalate (betweenDots s) = s := by
  have hlists : (betweenDots s).map String.toList = s.toList.splitOn '.' := by
    rw [betweenDots, List.map_map]
    exact List.map_id'' (fun _ => String.toList_ofList) _
  rw [← String.toList_inj, String.toList_intercalate, hlists]
  exact List.intercalate_splitOn '.'

theorem betweenDots_inj {s s' : String} : betweenDots s = betweenDots s' ↔ s = s' :=
  ⟨fun h => by rw [← intercalate_betweenDots s, h, intercalate_betweenDots], congrArg betweenDots⟩

theorem betweenDots_intercalate {segments : List String} (h : segments ≠ []) :
    betweenDots (".".intercalate segments) = segments.flatMap betweenDots :=
  map_splitOn_intercalate rfl h

theorem betweenDots_ne_nil (s : String) : betweenDots s ≠ [] := fun h =>
  List.splitOn_ne_nil '.' s.toList (List.map_eq_nil_iff.1 h)

theorem flatMap_betweenDots_eq_nil_iff {segments : List String} :
    segments.flatMap betweenDots = [] ↔ segments = [] := by
  rw [List.flatMap_eq_nil_iff]
  constructor
  · intro h
    exact List.eq_nil_iff_forall_not_mem.2 fun s hs => betweenDots_ne_nil s (h s hs)
  · rintro rfl
    exact List.forall_mem_nil _

namespace ModuleName

variable {m m' : ModuleName}

/-- Only the module without segments is shown as the empty text. -/
theorem dotted_eq_empty_iff (h : "" ∉ m.segments) : m.dotted = "" ↔ m.segments = [] := by
  constructor
  · intro hempty
    by_contra hne
    have hparts := betweenDots_intercalate hne
    rw [show ".".intercalate m.segments = "" from hempty] at hparts
    obtain ⟨s, r, hs⟩ := List.exists_cons_of_ne_nil hne
    rw [hs, List.flatMap_cons] at hparts
    rcases List.append_eq_singleton_iff.1 hparts.symm with ⟨hnil, -⟩ | ⟨hfirst, -⟩
    · exact betweenDots_ne_nil s hnil
    · have hs' : s = "" := betweenDots_inj.1 hfirst
      rw [hs, hs'] at h
      exact h List.mem_cons_self
  · intro hnil
    rw [dotted, hnil]
    rfl

/-- Modules are shown alike if and only if their segments have the same parts. -/
theorem dotted_eq_iff (h : "" ∉ m.segments) (h' : "" ∉ m'.segments) :
    m.dotted = m'.dotted ↔
      m.segments.flatMap betweenDots = m'.segments.flatMap betweenDots := by
  by_cases hm : m.segments = []
  · rw [(dotted_eq_empty_iff h).2 hm, hm, List.flatMap_nil, eq_comm, dotted_eq_empty_iff h',
      @eq_comm _ [], flatMap_betweenDots_eq_nil_iff]
  · by_cases hm' : m'.segments = []
    · rw [(dotted_eq_empty_iff h').2 hm', hm', dotted_eq_empty_iff h, List.flatMap_nil,
        flatMap_betweenDots_eq_nil_iff]
    · rw [← betweenDots_intercalate hm, ← betweenDots_intercalate hm', betweenDots_inj]
      exact Iff.rfl

end ModuleName

/-! ## Segments of schemas and operations -/

/-- The modules of a home have segments of letters and digits. -/
theorem Naming.isSegment_of_mem_homes {id : String} {tags : List String} {home : Naming.Home}
    (h : home ∈ Naming.homes id tags) : ∀ s ∈ home.modules, IsSegment s := by
  intro s hs
  obtain ⟨hne, halphanum⟩ := isAlphanum_of_mem_homes h s hs
  exact isSegment_of_isAlphanum hne halphanum

/-- The module of a path of segments, or the default module, is made of segments. -/
theorem Setting.isSegment_of_homeModule {s : Setting} {path : List String}
    (h : ∀ s ∈ path, IsSegment s) : ∀ part ∈ (s.homeModule path).segments, IsSegment part := by
  unfold homeModule
  split
  · intro part hpart
    exact isSegment_of_mem_dotParts hpart
  · exact h

namespace Setting.Stages

variable {s : Setting} (t : s.Stages) {m m' : ModuleName}

/-- Operations are at homes of their endpoints under the standard policy. -/
theorem exists_home (hpolicy : s.policy = .standard) {op : Operation} (hop : op ∈ t.operations) :
    ∃ e, ∃ home ∈ s.homesOf e, op.home = s.homeModule home.modules ∧ op.function = home.function := by
  obtain ⟨e, -, -, block, hblock, hop⟩ := exists_of_mem_operationsOfAll t.built hop
  obtain ⟨op', -, rfl⟩ := exists_placed hpolicy hblock
  obtain ⟨home, hhome, rfl⟩ := List.mem_map.1 hop
  exact ⟨e, home, hhome, rfl, rfl⟩

/-- Modules of operations are made of segments under the standard policy. -/
theorem isSegment_of_home (hpolicy : s.policy = .standard) {op : Operation}
    (hop : op ∈ t.operations) : ∀ part ∈ op.home.segments, IsSegment part := by
  obtain ⟨e, home, hhome, hmodule, -⟩ := t.exists_home hpolicy hop
  rw [hmodule]
  exact isSegment_of_homeModule (Naming.isSegment_of_mem_homes hhome)

/-- Modules of schemas and operations are made of segments under the standard policy. -/
theorem isSegment_of_isConcrete (hpolicy : s.policy = .standard) (h : t.plan.IsConcrete m) :
    ∀ part ∈ m.segments, IsSegment part := by
  rcases h with ⟨schema, hschema, rfl⟩ | ⟨op, hop, rfl⟩
  · obtain ⟨-, hne, halnum⟩ := t.finalName_eq (t.exists_of_mem_values hschema)
    intro part hpart
    rw [List.mem_singleton.1 hpart]
    exact isSegment_of_isAlphanum hne halnum
  · exact t.isSegment_of_home hpolicy hop

end Setting.Stages

/-! ## Shown modules -/

namespace PlanState

/-- The modules that the table of files shows. -/
def shownModules (p : PlanState) : List (Option String) := p.rows.map List.head?

/-- There are dots in the suffix of interfaces, and the parts between them lead from the module of
an operation to another module of a schema or an operation. -/
def InterfaceHides (p : PlanState) : Prop :=
  p.config.interfaces = true ∧ '.' ∈ p.config.interfaceSuffix.toList ∧
    ∃ op ∈ p.operations,
      p.IsConcrete ⟨op.home.segments ++ betweenDots p.config.interfaceSuffix, false⟩

end PlanState

/-- The segments that a module is shown with. -/
theorem ModuleName.segments_qualify {m : ModuleName} (hm : m.qualified = false) (base : String) :
    (m.qualify base).segments = dotParts base ++ m.segments := by
  rw [qualify, hm]
  rfl

namespace Setting.Stages

variable {s : Setting} (t : s.Stages) {m m' : ModuleName}

theorem qualified_of_mem_keys (h : m ∈ t.plan.files.keys) : m.qualified = false := by
  rcases t.isConcrete_or_isInterface h with h | ⟨-, op, hop, rfl⟩
  · exact t.qualified_of_isConcrete h
  · exact t.qualified_home hop

/-- No segment of a file's module is empty. -/
theorem empty_not_mem_segments (hpolicy : s.policy = .standard) (h : m ∈ t.plan.files.keys) :
    "" ∉ m.segments := by
  rcases t.isConcrete_or_isInterface h with h | ⟨hi, op, hop, rfl⟩
  · exact fun hmem => (t.isSegment_of_isConcrete hpolicy h "" hmem).1 rfl
  · intro hmem
    rcases List.mem_append.1 hmem with hmem | hmem
    · exact (t.isSegment_of_home hpolicy hop "" hmem).1 rfl
    · have hsuffix : "" = s.config.interfaceSuffix := List.mem_singleton.1 hmem
      have hblank := s.config.allBlank_interfaceSuffix hi
      rw [← hsuffix] at hblank
      exact absurd hblank (by decide)

/-- Files show the same module if and only if their segments have the same parts. -/
theorem dotted_qualify_eq_iff (hpolicy : s.policy = .standard) (h : m ∈ t.plan.files.keys)
    (h' : m' ∈ t.plan.files.keys) (base : String) :
    (m.qualify base).dotted = (m'.qualify base).dotted ↔
      m.segments.flatMap betweenDots = m'.segments.flatMap betweenDots := by
  have hempty {m : ModuleName} (h : m ∈ t.plan.files.keys) : "" ∉ (m.qualify base).segments := by
    rw [ModuleName.segments_qualify (t.qualified_of_mem_keys h), List.mem_append, not_or]
    exact ⟨fun hmem => (isSegment_of_mem_dotParts hmem).1 rfl, t.empty_not_mem_segments hpolicy h⟩
  rw [ModuleName.dotted_eq_iff (hempty h) (hempty h'),
    ModuleName.segments_qualify (t.qualified_of_mem_keys h),
    ModuleName.segments_qualify (t.qualified_of_mem_keys h'), List.flatMap_append,
    List.flatMap_append, List.append_cancel_left_eq]

/-- The parts of the module of a schema or an operation are its segments. -/
theorem parts_of_isConcrete (hpolicy : s.policy = .standard) (h : t.plan.IsConcrete m) :
    m.segments.flatMap betweenDots = m.segments :=
  flatMap_betweenDots (t.isSegment_of_isConcrete hpolicy h)

/-- The parts of an interface are the segments of its operations and the parts of the suffix. -/
theorem parts_of_interface (hpolicy : s.policy = .standard) {op : Operation}
    (hop : op ∈ t.operations) (suffix : String) :
    (op.home.child suffix).segments.flatMap betweenDots =
      op.home.segments ++ betweenDots suffix := by
  rw [ModuleName.child, List.flatMap_append, List.flatMap_singleton,
    flatMap_betweenDots (t.isSegment_of_home hpolicy hop)]

/-- No interface is the module of a schema or an operation. -/
theorem not_isConcrete_of_isInterface (h : t.plan.IsInterface m) : ¬ t.plan.IsConcrete m := by
  intro hconcrete
  have hkey : m ∈ (s.config.interfaceFiles t.operations).keys :=
    (Config.mem_keys_interfaceFiles _).2 h
  exact OrderedMap.get?_eq_none_iff.1 (t.get?_interfaceFiles_eq_none hconcrete) hkey

/-- An interface with the parts of another file's module is hidden by that file. -/
theorem interfaceHides_of_parts (hi : s.config.interfaces = true) {op : Operation}
    (hop : op ∈ t.operations) (h : t.plan.IsConcrete m)
    (hparts : m.segments = op.home.segments ++ betweenDots s.config.interfaceSuffix) :
    t.plan.InterfaceHides := by
  have hm : m = ⟨op.home.segments ++ betweenDots s.config.interfaceSuffix, false⟩ := by
    have hqualified := t.qualified_of_isConcrete h
    cases m
    cases hparts
    cases hqualified
    rfl
  refine ⟨hi, by_contra fun (hdot : '.' ∉ s.config.interfaceSuffix.toList) => ?_, op, hop, hm ▸ h⟩
  -- Without dots the suffix is its only part, so the interface would be the file's module.
  have hchild : m = op.home.child s.config.interfaceSuffix := by
    rw [hm, betweenDots_of_not_mem hdot, ModuleName.child, t.qualified_home hop]
  exact t.not_isConcrete_of_isInterface ⟨hi, op, hop, hchild⟩ h

/-- Files with modules of the same parts are one file, unless an interface is hidden. -/
theorem eq_of_parts_eq (hpolicy : s.policy = .standard) (hhides : ¬ t.plan.InterfaceHides)
    (h : m ∈ t.plan.files.keys) (h' : m' ∈ t.plan.files.keys)
    (hparts : m.segments.flatMap betweenDots = m'.segments.flatMap betweenDots) : m = m' := by
  rcases t.isConcrete_or_isInterface h with hm | ⟨hi, op, hop, rfl⟩
  · rw [t.parts_of_isConcrete hpolicy hm] at hparts
    rcases t.isConcrete_or_isInterface h' with hm' | ⟨hi', op', hop', rfl⟩
    · rw [t.parts_of_isConcrete hpolicy hm'] at hparts
      have hqualified := (t.qualified_of_isConcrete hm).trans (t.qualified_of_isConcrete hm').symm
      cases m
      cases m'
      cases hparts
      cases hqualified
      rfl
    · rw [t.parts_of_interface hpolicy hop'] at hparts
      exact absurd (t.interfaceHides_of_parts hi' hop' hm hparts) hhides
  · rw [t.parts_of_interface hpolicy hop] at hparts
    rcases t.isConcrete_or_isInterface h' with hm' | ⟨hi', op', hop', rfl⟩
    · rw [t.parts_of_isConcrete hpolicy hm'] at hparts
      exact absurd (t.interfaceHides_of_parts hi hop hm' hparts.symm) hhides
    · rw [t.parts_of_interface hpolicy hop'] at hparts
      have hsegments : op.home.segments = op'.home.segments := List.append_cancel_right hparts
      have hqualified := (t.qualified_home hop).trans (t.qualified_home hop').symm
      rw [ModuleName.child, ModuleName.child, hsegments, hqualified]

/-- The files show different modules if and only if no interface is hidden. -/
theorem nodup_dotted_iff (hpolicy : s.policy = .standard) (base : String) :
    (t.plan.files.keys.map fun m => (m.qualify base).dotted).Nodup ↔ ¬ t.plan.InterfaceHides := by
  have hkeys : t.plan.files.keys.Nodup := t.plan.files.nodup
  rw [List.nodup_map_iff_inj_on hkeys]
  constructor
  · rintro hinj ⟨hi, -, op, hop, hconcrete⟩
    have hinterface : t.plan.IsInterface (op.home.child s.config.interfaceSuffix) :=
      ⟨hi, op, hop, rfl⟩
    have hkey := OrderedMap.mem_keys_iff.2 ⟨_, t.get?_files_of_interface hi hop⟩
    have hkey' := OrderedMap.mem_keys_iff.2 ⟨_, t.get?_files_of_isConcrete hconcrete⟩
    have heq := hinj _ hkey _ hkey' ((t.dotted_qualify_eq_iff hpolicy hkey hkey' base).2 (by
      rw [t.parts_of_interface hpolicy hop, t.parts_of_isConcrete hpolicy hconcrete]
      rfl))
    exact t.not_isConcrete_of_isInterface hinterface (heq ▸ hconcrete)
  · intro hhides m h m' h' heq
    exact t.eq_of_parts_eq hpolicy hhides h h' ((t.dotted_qualify_eq_iff hpolicy h h' base).1 heq)

end Setting.Stages

/-- At the end of every run under the standard policy the files show different modules, with the
base module in front, if and only if no interface reads like the module of a schema or an operation
because of dots in the suffix. -/
theorem nodup_shownModules_iff {s : Setting} {p : PlanState} (hpolicy : s.policy = .standard)
    (h : s.start.run.outcome = .ok p) : p.shownModules.Nodup ↔ ¬ p.InterfaceHides := by
  obtain ⟨t, rfl⟩ := Setting.run_eq_ok_iff.1 h
  rw [← t.nodup_dotted_iff hpolicy s.config.baseModule]
  have hshown : t.plan.shownModules =
      (t.plan.files.keys.map fun m => (m.qualify s.config.baseModule).dotted).map some := by
    rw [PlanState.shownModules, PlanState.rows, fileRows, OrderedMap.keys, List.map_map,
      List.map_map, List.map_map]
    rfl
  rw [hshown]
  exact List.nodup_map_iff fun a b hab => Option.some.inj hab

/-- A document of pets with operations in a module and in one two levels below it. -/
def nestedDocument : Value :=
  .ofFields [("paths", .ofFields [("/x", .ofFields [
    ("get", .ofFields [("operationId", .str "pets/list"), ("responses", .ofFields [])]),
    ("post", .ofFields [("operationId", .str "pets/a/b/get"), ("responses", .ofFields [])])])])]

/-- The plan of a description with interfaces, by ids only. -/
def suffixSetting (suffix : String) (h : Text.allBlank suffix = false) (api : Api) : Setting :=
  { structuralSetting api with
    config := {
      useTags := false
      interfaces := true
      interfaceSuffix := suffix
      consistent := by simp [Options.consistent, h] } }

/-- With a suffix without dots the modules in which pets are planned are different. -/
theorem nodup_shownModules_pets : ∃ (s : Setting) (p : PlanState), s.policy = .standard ∧
    s.start.run.outcome = .ok p ∧ p.config.interfaces = true ∧
    p.shownModules = [some "Pets", some "Pets.A.B", some "Pets.B", some "Pets.A.B.B"] ∧
    p.shownModules.Nodup ∧ ¬ p.InterfaceHides := by
  obtain ⟨api, p, hapi, hp, htest⟩ := Setting.exists_run nestedDocument "3.0.3"
    (suffixSetting "B" (by decide)) 4 (fun p => p.config.interfaces &&
      p.shownModules == [some "Pets", some "Pets.A.B", some "Pets.B", some "Pets.A.B.B"])
    (fun _ => rfl) (by decide +kernel)
  obtain ⟨hi, hshown⟩ := Bool.and_eq_true_iff.1 htest
  have hshown := eq_of_beq hshown
  have hnodup : p.shownModules.Nodup := by
    rw [hshown]
    decide
  exact ⟨suffixSetting "B" (by decide) api, p, rfl, hp, hi, hshown, hnodup,
    (nodup_shownModules_iff rfl hp).1 hnodup⟩

/-- With the suffix `A.B` the interface of pets reads like the module two levels below it. -/
theorem shownModules_not_nodup_nested : ∃ (s : Setting) (p : PlanState),
    readApi nestedDocument "3.0.3" = .ok s.api ∧ s.policy = .standard ∧
    s.encoder = .structural ∧ s.start.run.outcome = .ok p ∧
    p.shownModules = [some "Pets", some "Pets.A.B", some "Pets.A.B", some "Pets.A.B.A.B"] ∧
    ¬ p.shownModules.Nodup := by
  obtain ⟨api, p, hapi, hp, htest⟩ := Setting.exists_run nestedDocument "3.0.3"
    (suffixSetting "A.B" (by decide)) 4 (fun p => p.shownModules ==
      [some "Pets", some "Pets.A.B", some "Pets.A.B", some "Pets.A.B.A.B"])
    (fun _ => rfl) (by decide +kernel)
  have hshown := eq_of_beq htest
  refine ⟨suffixSetting "A.B" (by decide) api, p, hapi, rfl, rfl, hp, hshown, ?_⟩
  rw [hshown]
  decide

end ClientPlan
