import ClientPlan.Command.Run
import ClientPlan.Proofs.Discovery.Directives
import ClientPlan.Proofs.Naming.Words
import ClientPlan.Proofs.Plan.ModuleNames
import ClientPlan.Proofs.Plan.Paths
import ClientPlan.Proofs.Pointer.Navigation
import ClientPlan.Proofs.Report.Table

/-!
# Cells of listings

A listing shows some texts as the document or the configuration has them, and everything else in it
is made by planning: names in function or type case, numbers and fixed words.  What is made can
always stand as a cell, so the cells of a listing depend on the texts that are given
(`isCell_rows_iff`).  The texts that the configuration has a part in can stand as cells if the texts
of the configuration can, whatever the document is (`isCell_of_configuredTexts`).
-/

set_option autoImplicit false

namespace ClientPlan

/-! ## Texts that can stand as cells -/

theorem isCell_of_isAlphanum {s : String} (h : ∀ c ∈ s.toList, c.isAlphanum = true) : IsCell s :=
  isCell_of_forall h (by decide) (by decide)

theorem isCell_toString (n : Nat) : IsCell (toString n) := by
  have hdigit : ∀ c ∈ (toString n).toList, c.isDigit = true := by
    intro c hc
    rw [Text.toList_toString] at hc
    exact Nat.isDigit_of_mem_toDigits (by decide) (by decide) hc
  exact isCell_of_forall hdigit (by decide) (by decide)

theorem isCell_orDash {s : String} : IsCell (orDash s) ↔ IsCell s := by
  unfold orDash
  split
  · next h =>
    rw [eq_of_beq h]
    decide
  · exact Iff.rfl

theorem isCell_shown (method : Method) : IsCell method.shown := by
  cases method <;> decide

/-- Names joined by commas, or a dash, are a cell if and only if the names are cells. -/
theorem isCell_commas {l : List String} :
    IsCell (orDash (", ".intercalate l)) ↔ ∀ s ∈ l, IsCell s :=
  isCell_orDash.trans (isCell_intercalate (by decide))

/-- The parts of a dotted text are cells if and only if the text is a cell. -/
theorem isCell_dotParts {s : String} : (∀ part ∈ dotParts s, IsCell part) ↔ IsCell s := by
  have hempty : (∀ part ∈ dotParts s, IsCell part) ↔ ∀ part ∈ betweenDots s, IsCell part := by
    refine ⟨fun h part hpart => ?_, fun h part hpart => h part (List.mem_filter.1 hpart).1⟩
    by_cases hne : part = ""
    · rw [hne]
      decide
    · exact h part (List.mem_filter.2 ⟨hpart, bne_iff_ne.2 hne⟩)
  have hdot : IsCell "." := by decide
  rw [hempty, ← isCell_intercalate hdot, intercalate_betweenDots]

theorem isCell_dotted_qualify {m : ModuleName} (hm : m.qualified = false) {base : String} :
    IsCell (m.qualify base).dotted ↔ IsCell base ∧ ∀ s ∈ m.segments, IsCell s := by
  have hdot : IsCell "." := by decide
  rw [ModuleName.dotted, isCell_intercalate hdot, ModuleName.segments_qualify hm,
    List.forall_mem_append, isCell_dotParts]

/-! ## Rows -/

theorem isCell_fileRow {m : ModuleName} (hm : m.qualified = false) {base : String}
    {unit : FileUnit} : (∀ cell ∈ fileRow base m unit, IsCell cell) ↔
      ∀ text ∈ base :: (m.segments ++ unit.name :: unit.directives), IsCell text := by
  have hmark : IsCell (if unit.isInterface then "yes" else "") := by
    split <;> decide
  simp only [fileRow, List.forall_mem_cons, List.forall_mem_append, isCell_dotted_qualify hm,
    isCell_commas, isCell_toString, hmark, List.not_mem_nil, false_imp_iff, implies_true, true_and,
    and_true, and_assoc]

theorem Operation.isCell_row {op : Operation} (hm : op.home.qualified = false)
    (hfunction : IsCell op.function) {base : String} :
    (∀ cell ∈ op.row base, IsCell cell) ↔ (∀ text ∈ base :: op.home.segments, IsCell text) ∧
      ∀ text ∈ op.path :: (op.pathParams ++ op.queryParams).map Param.name, IsCell text := by
  simp only [Operation.row, List.map_append, List.forall_mem_cons, List.forall_mem_append,
    isCell_dotted_qualify hm, isCell_commas, isCell_shown, hfunction, List.not_mem_nil,
    false_imp_iff, implies_true, true_and, and_true]

theorem Schema.isCell_row {schema : Schema} (hname : IsCell schema.finalName) :
    (∀ cell ∈ schema.row, IsCell cell) ↔ ∀ text ∈ schema.identities ++
      schema.fields.flatMap fun field => [field.name, field.type.text], IsCell text := by
  have hcolon : IsCell ": " := by decide
  have hcomma : IsCell ", " := by decide
  simp only [Schema.row, List.forall_mem_cons, List.forall_mem_append, List.forall_mem_map,
    List.forall_mem_flatMap, isCell_append, isCell_commas, isCell_intercalate hcomma, hname, hcolon,
    List.not_mem_nil, false_imp_iff, implies_true, true_and, and_true]

/-! ## The texts of a listing -/

namespace PlanState

/-- The texts of a listing that the configuration has a part in. -/
def configuredTexts (p : PlanState) : View → List String
  | .files => p.files.entries.flatMap fun e =>
      p.config.baseModule :: (e.1.segments ++ e.2.name :: e.2.directives)
  | .operations => p.operations.flatMap fun op => p.config.baseModule :: op.home.segments
  | .schemas => []

/-- The texts of a listing that come from the document alone. -/
def describedTexts (p : PlanState) : View → List String
  | .files => []
  | .operations => p.operations.flatMap fun op =>
      op.path :: (op.pathParams ++ op.queryParams).map Param.name
  | .schemas => p.schemas.values.flatMap fun schema =>
      schema.identities ++ schema.fields.flatMap fun field => [field.name, field.type.text]

end PlanState

namespace Setting.Stages

variable {s : Setting} (t : s.Stages)

/-- Functions are named by lowercase letters, digits and underscores. -/
theorem isCell_function (hpolicy : s.policy = .standard) {op : Operation}
    (hop : op ∈ t.operations) : IsCell op.function := by
  obtain ⟨e, home, hhome, -, hfunction⟩ := t.exists_home hpolicy hop
  rw [homesOf, Naming.homes_eq_map_places] at hhome
  obtain ⟨place, hplace, rfl⟩ := List.mem_map.1 hhome
  have hletter : ∀ c ∈ Naming.joined place.words, c = '_' ∨ Naming.isLower c = true := by
    intro c hc
    rcases Naming.mem_of_mem_intercalate hc with hc | ⟨w, hw, hc⟩
    · exact .inl (List.mem_singleton.1 hc)
    · exact .inr ((Naming.isWord_of_mem_places hplace w hw).2 c hc)
  rw [hfunction]
  refine isCell_of_forall (fun c hc => hletter c ?_) (by decide) (by decide)
  rwa [Naming.Place.home, String.toList_ofList] at hc

theorem isCell_finalName {schema : Schema} (h : schema ∈ t.schemas.values) :
    IsCell schema.finalName :=
  isCell_of_isAlphanum (t.finalName_eq (t.exists_of_mem_values h)).2.2

/-- The cells of a listing can stand as cells if and only if the texts that are given can. -/
theorem isCell_rows_iff (hpolicy : s.policy = .standard) (view : View) :
    (∀ row ∈ (t.plan.listing view).rows, ∀ cell ∈ row, IsCell cell) ↔
      (∀ text ∈ t.plan.configuredTexts view, IsCell text) ∧
        ∀ text ∈ t.plan.describedTexts view, IsCell text := by
  cases view with
  | files =>
    have hrows : (t.plan.listing .files).rows =
        t.plan.files.entries.map fun e => fileRow s.config.baseModule e.1 e.2 := rfl
    rw [hrows, List.forall_mem_map, PlanState.configuredTexts, List.forall_mem_flatMap,
      PlanState.describedTexts, and_iff_left (List.forall_mem_nil _)]
    exact forall₂_congr fun e he =>
      isCell_fileRow (t.qualified_of_mem_keys (List.mem_map_of_mem he))
  | operations =>
    have hrows : (t.plan.listing .operations).rows =
        t.operations.map (Operation.row s.config.baseModule) := rfl
    rw [hrows, List.forall_mem_map, PlanState.configuredTexts, List.forall_mem_flatMap,
      PlanState.describedTexts, List.forall_mem_flatMap, ← forall₂_and]
    exact forall₂_congr fun op hop =>
      Operation.isCell_row (t.qualified_home hop) (t.isCell_function hpolicy hop)
  | schemas =>
    have hrows : (t.plan.listing .schemas).rows = t.schemas.values.map Schema.row := rfl
    rw [hrows, List.forall_mem_map, PlanState.describedTexts, List.forall_mem_flatMap,
      PlanState.configuredTexts, and_iff_right (List.forall_mem_nil _)]
    exact forall₂_congr fun schema hschema => Schema.isCell_row (t.isCell_finalName hschema)

end Setting.Stages

/-! ## Paths -/

theorem isCell_joinPart {path part : String} (hpath : IsCell path) (hpart : IsCell part) :
    IsCell (joinPart path part) := by
  have hslash : IsCell "/" := by decide
  unfold joinPart
  split
  · exact hpart
  split
  · exact isCell_append.2 ⟨hpath, hpart⟩
  · exact isCell_append.2 ⟨isCell_append.2 ⟨hpath, hslash⟩, hpart⟩

theorem isCell_foldl_joinPart {parts : List String} (hparts : ∀ part ∈ parts, IsCell part)
    {path : String} (hpath : IsCell path) : IsCell (parts.foldl joinPart path) := by
  induction parts generalizing path with
  | nil => exact hpath
  | cons part r ih =>
    obtain ⟨hpart, hr⟩ := List.forall_mem_cons.1 hparts
    exact ih hr (isCell_joinPart hpath hpart)

theorem isCell_joinPath {directories : List String} (h : ∀ d ∈ directories, IsCell d)
    {name : String} (hname : IsCell name) : IsCell (joinPath directories name) := by
  have hparts : ∀ part ∈ directories.filter (· != "") ++ [name], IsCell part :=
    List.forall_mem_append.2 ⟨fun d hd => h d (List.mem_filter.1 hd).1,
      List.forall_mem_singleton.2 hname⟩
  unfold joinPath
  split
  · decide
  · next first rest hsplit =>
    obtain ⟨hfirst, hrest⟩ := List.forall_mem_cons.1 (hsplit ▸ hparts)
    exact isCell_foldl_joinPart hrest hfirst

theorem isCell_stem (m : ModuleName) : IsCell m.stem :=
  isCell_of_forall (fun _ => mem_stem) (by decide) (by decide)

/-- The path of a module can stand as a cell if the directories in front of it can. -/
theorem isCell_fileName {base location : String} (hbase : IsCell base)
    (hlocation : IsCell location) (m : ModuleName) : IsCell (fileName [base, location] m) :=
  isCell_joinPath (List.forall_mem_cons.2 ⟨hbase, List.forall_mem_singleton.2 hlocation⟩)
    (isCell_stem m)

/-! ## Texts of the configuration -/

/-- The texts of a configuration that have a part in listings. -/
def Options.listedTexts (o : Options) : List String :=
  [o.baseModule, o.defaultModule, o.interfaceSuffix, o.baseLocation, o.schemaLocation,
    o.operationLocation] ++ (o.schemaUse.toList ++ o.defaultClient.toList)

theorem isCell_givenList {given : Option String} (h : ∀ text ∈ given.toList, IsCell text) :
    ∀ text ∈ givenList given, IsCell text := fun text ht => h text (List.mem_filter.1 ht).1

namespace Setting.Stages

variable {s : Setting} (t : s.Stages) {m : ModuleName}

/-- Schemas need no directives under the standard policy. -/
theorem directives_eq_nil (hpolicy : s.policy = .standard) {schema : Schema}
    (h : schema ∈ t.schemas.values) : schema.directives = [] := by
  obtain ⟨name, hname⟩ := OrderedMap.mem_values_iff.1 h
  obtain ⟨found, hfound, hdescribed⟩ := (OrderedMap.traverse_eq_ok t.described).2 name schema hname
  obtain ⟨fields, -, he⟩ := bind_eq_ok.1 hdescribed
  cases he
  obtain ⟨log, hlog⟩ := recorded_of_discover t.discovered
  rw [hlog.schemas] at hfound
  show found.directives = []
  rw [directives_grouped hfound, given, hpolicy]
  have hnone (l : List Registration) :
      (l.flatMap fun r => Policy.standard.schemaDirectives r.candidate) = [] :=
    List.flatMap_eq_nil_iff.2 fun _ _ => rfl
  rw [hnone]
  rfl

/-- The module of an operation is made of names of letters and digits, or it is the default. -/
theorem isCell_home (hpolicy : s.policy = .standard) (hdefault : IsCell s.config.defaultModule)
    {op : Operation} (hop : op ∈ t.operations) : ∀ part ∈ op.home.segments, IsCell part := by
  obtain ⟨e, home, hhome, hmodule, -⟩ := t.exists_home hpolicy hop
  rw [hmodule, homeModule]
  split
  · exact isCell_dotParts.2 hdefault
  · exact fun part hpart =>
      isCell_of_isAlphanum (Naming.isAlphanum_of_mem_homes hhome part hpart).2

theorem isCell_concreteFile (hpolicy : s.policy = .standard)
    (hconfig : ∀ text ∈ s.config.listedTexts, IsCell text) (h : t.plan.IsConcrete m) :
    ∀ text ∈ m.segments ++ (t.plan.concreteFile m).name :: (t.plan.concreteFile m).directives,
      IsCell text := by
  simp only [Options.listedTexts, List.forall_mem_append, List.forall_mem_cons] at hconfig
  obtain ⟨⟨-, hdefault, -, hbase, hschema, hoperation, -⟩, huse, hclient⟩ := hconfig
  refine List.forall_mem_append.2 ⟨?_, List.forall_mem_cons.2 ⟨?_, ?_⟩⟩
  · rcases h with ⟨schema, hschema, rfl⟩ | ⟨op, hop, rfl⟩
    · exact List.forall_mem_singleton.2 (t.isCell_finalName hschema)
    · exact t.isCell_home hpolicy hdefault hop
  · unfold PlanState.concreteFile
    dsimp only
    split
    · exact isCell_fileName hbase hschema m
    · exact isCell_fileName hbase hoperation m
  · refine List.forall_mem_append.2 ⟨?_, ?_⟩
    · split
      · exact List.forall_mem_nil _
      · exact isCell_givenList hclient
    · cases hfound : t.plan.schemaAt m with
      | none => exact List.forall_mem_nil _
      | some schema =>
        rw [PlanState.schemaDirectives, t.directives_eq_nil hpolicy
          (t.schemaAt_eq_some_iff.1 hfound).1, List.append_nil]
        exact isCell_givenList huse

theorem isCell_interface (hpolicy : s.policy = .standard)
    (hconfig : ∀ text ∈ s.config.listedTexts, IsCell text) {op : Operation}
    (hop : op ∈ t.operations) :
    ∀ text ∈ (op.home.child s.config.interfaceSuffix).segments ++
      (s.config.moduleInterface t.operations op.home).name ::
        (s.config.moduleInterface t.operations op.home).directives, IsCell text := by
  simp only [Options.listedTexts, List.forall_mem_append, List.forall_mem_cons] at hconfig
  obtain ⟨⟨-, hdefault, hsuffix, hbase, -, hoperation, -⟩, -, -⟩ := hconfig
  have hending : IsCell interfaceEnding := by decide
  refine List.forall_mem_append.2 ⟨?_, List.forall_mem_singleton.2 ?_⟩
  · exact List.forall_mem_append.2
      ⟨t.isCell_home hpolicy hdefault hop, List.forall_mem_singleton.2 hsuffix⟩
  · exact isCell_append.2 ⟨isCell_fileName hbase hoperation op.home, hending⟩

/-- What the configuration has a part in can stand in cells if the texts of the configuration can. -/
theorem isCell_of_configuredTexts (hpolicy : s.policy = .standard)
    (hconfig : ∀ text ∈ s.config.listedTexts, IsCell text) (view : View) :
    ∀ text ∈ t.plan.configuredTexts view, IsCell text := by
  have hbase : IsCell s.config.baseModule := hconfig _ List.mem_cons_self
  cases view with
  | files =>
    refine List.forall_mem_flatMap.2 fun e he => List.forall_mem_cons.2 ⟨hbase, ?_⟩
    obtain ⟨m, unit⟩ := e
    rcases t.get?_files_cases (OrderedMap.get?_eq_some_iff.2 he) with ⟨hm, rfl⟩ | ⟨op, hop, rfl, rfl⟩
    · exact t.isCell_concreteFile hpolicy hconfig hm
    · exact t.isCell_interface hpolicy hconfig hop
  | operations =>
    refine List.forall_mem_flatMap.2 fun op hop => List.forall_mem_cons.2 ⟨hbase, ?_⟩
    have hdefault : IsCell s.config.defaultModule :=
      hconfig _ (List.mem_cons_of_mem _ List.mem_cons_self)
    exact t.isCell_home hpolicy hdefault hop
  | schemas => exact List.forall_mem_nil _

end Setting.Stages

end ClientPlan
