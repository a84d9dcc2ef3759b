import ClientPlan.Proofs.Plan.FilePlan
import ClientPlan.Proofs.Plan.Paths

/-!
# Paths of the files of a run

Files are told apart by their modules, but rendered texts by the paths of their files, and a path
keeps less than its module: function case forgets where the words of a segment begin.
`PlanState.PathsApart` says which modules have to be told apart by their paths; a rendering keeps
the text of every file exactly in that case (`nodup_paths_iff`, `emit_complete`).
-/

set_option autoImplicit false

namespace ClientPlan

/-! ## Rendering -/

theorem emit_eq_ok (render : ModuleName → FileUnit → String) (baseModule : String)
    (files : FileMap) :
    emit (fun m unit => .ok (render m unit)) baseModule files =
      .ok (files.entries.foldl (fun rendered e =>
        rendered.insert e.2.name (render (e.1.qualify baseModule) e.2)) OrderedMap.empty) :=
  List.foldlM_pure

/-- A rendering keeps the text of every file if all paths are different, and loses one otherwise. -/
theorem emit_complete (render : ModuleName → FileUnit → String) (baseModule : String)
    (files : FileMap) : ∃ out,
      emit (fun m unit => .ok (render m unit)) baseModule files = .ok out ∧
      (out.size = files.size ↔ (files.values.map FileUnit.name).Nodup) ∧
      ((files.values.map FileUnit.name).Nodup → ∀ m unit, files.get? m = some unit →
        out.get? unit.name = some (render (m.qualify baseModule) unit)) := by
  let path : ModuleName × FileUnit → String := fun e => e.2.name
  let text : ModuleName × FileUnit → String := fun e => render (e.1.qualify baseModule) e.2
  have hpaths : files.values.map FileUnit.name = files.entries.map path := by
    rw [OrderedMap.values, List.map_map]
    rfl
  rw [hpaths]
  refine ⟨_, emit_eq_ok render baseModule files, ⟨fun hsize => ?_, fun hnodup => ?_⟩,
    fun hnodup m unit hunit => ?_⟩
  · by_contra hdup
    have hlt := OrderedMap.length_eraseDups_lt hdup
    rw [← OrderedMap.keys_foldl_insert_items path text, OrderedMap.keys, List.length_map,
      List.length_map] at hlt
    exact Nat.ne_of_lt hlt hsize
  · have hentries := OrderedMap.entries_foldl_insert_items (v := text) hnodup
    rw [OrderedMap.size, OrderedMap.size, hentries, List.length_map]
  · have hentries := OrderedMap.entries_foldl_insert_items (v := text) hnodup
    rw [OrderedMap.get?_eq_some_iff, hentries]
    exact List.mem_map.2 ⟨(m, unit), OrderedMap.get?_eq_some_iff.1 hunit, rfl⟩

/-! ## Paths that meet -/

namespace PlanState

/-- A collected schema that no operation shares the module with. -/
def SchemaOnly (p : PlanState) (name : String) : Prop :=
  name ∈ p.schemas.keys ∧ ∀ op ∈ p.operations, op.home ≠ ⟨[name], false⟩

/-- The paths of the modules that schemas and operations are at home in are different. -/
structure PathsApart (p : PlanState) : Prop where
  /-- Operations with one path are at home in one module. -/
  operations : ∀ op ∈ p.operations, ∀ op' ∈ p.operations,
    p.config.operationFileName op.home = p.config.operationFileName op'.home → op.home = op'.home
  /-- Names of schemas are different in function case. -/
  schemas : ∀ name name', p.SchemaOnly name → p.SchemaOnly name' →
    Naming.functionName name = Naming.functionName name' → name = name'
  /-- No schema has the path of an operation in another module. -/
  mixed : ∀ name, p.SchemaOnly name → ∀ op ∈ p.operations,
    fileName [p.config.baseLocation, p.config.schemaLocation] ⟨[name], false⟩ ≠
      p.config.operationFileName op.home

end PlanState

/-- Schemas have one path exactly if their names are one in function case. -/
theorem fileName_singleton_inj (directories : List String) (name name' : String) :
    fileName directories ⟨[name], false⟩ = fileName directories ⟨[name'], false⟩ ↔
      Naming.functionName name = Naming.functionName name' := by
  rw [fileName, fileName, stem_singleton, stem_singleton,
    joinPath_inj directories (startsWith_functionName name) (startsWith_functionName name')]

namespace Setting.Stages

variable {s : Setting} (t : s.Stages) {m m' : ModuleName}

theorem mem_keys_schemas_iff {name : String} :
    name ∈ t.schemas.keys ↔ ∃ schema ∈ t.schemas.values, schema.finalName = name := by
  rw [← t.map_finalName_values, List.mem_map]

/-- A module of a schema or an operation is that of an operation or of a schema only. -/
theorem isConcrete_iff_home_or_schemaOnly : t.plan.IsConcrete m ↔
    (∃ op ∈ t.operations, m = op.home) ∨ ∃ name, t.plan.SchemaOnly name ∧ m = ⟨[name], false⟩ := by
  constructor
  · rintro (⟨schema, hschema, rfl⟩ | hop)
    · by_cases hop : ∃ op ∈ t.operations, (⟨[schema.finalName], false⟩ : ModuleName) = op.home
      · exact .inl hop
      · refine .inr ⟨schema.finalName, ⟨t.mem_keys_schemas_iff.2 ⟨schema, hschema, rfl⟩, ?_⟩, rfl⟩
        exact fun op hmem heq => hop ⟨op, hmem, heq.symm⟩
    · exact .inl hop
  · rintro (hop | ⟨name, ⟨hname, -⟩, rfl⟩)
    · exact .inr hop
    · obtain ⟨schema, hschema, rfl⟩ := t.mem_keys_schemas_iff.1 hname
      exact .inl ⟨schema, hschema, rfl⟩

/-- An operation decides on the directory of its module. -/
theorem name_concreteFile_home {op : Operation} (hop : op ∈ t.operations) :
    (t.plan.concreteFile op.home).name = s.config.operationFileName op.home :=
  if_neg (t.operationsAt_ne_nil_iff.2 ⟨op, hop, rfl⟩)

theorem name_concreteFile_schemaOnly {name : String} (h : t.plan.SchemaOnly name) :
    (t.plan.concreteFile ⟨[name], false⟩).name =
      fileName [s.config.baseLocation, s.config.schemaLocation] ⟨[name], false⟩ := by
  refine if_pos (by_contra fun hne => ?_)
  obtain ⟨op, hop, heq⟩ := t.operationsAt_ne_nil_iff.1 hne
  exact h.2 op hop heq.symm

/-- The path of a file that is no interface is the path of its module. -/
theorem exists_name_concreteFile (m : ModuleName) :
    ∃ directories, (t.plan.concreteFile m).name = fileName directories m := by
  unfold PlanState.concreteFile
  dsimp only
  split
  · exact ⟨_, rfl⟩
  · exact ⟨_, rfl⟩

/-- Files that are no interfaces have paths of their own if the paths of their modules are apart. -/
theorem eq_of_name_concreteFile_eq (hapart : t.plan.PathsApart) (h : t.plan.IsConcrete m)
    (h' : t.plan.IsConcrete m')
    (heq : (t.plan.concreteFile m).name = (t.plan.concreteFile m').name) : m = m' := by
  rcases t.isConcrete_iff_home_or_schemaOnly.1 h with ⟨op, hop, rfl⟩ | ⟨name, hname, rfl⟩
  · rw [t.name_concreteFile_home hop] at heq
    rcases t.isConcrete_iff_home_or_schemaOnly.1 h' with ⟨op', hop', rfl⟩ | ⟨name', hname', rfl⟩
    · rw [t.name_concreteFile_home hop'] at heq
      exact hapart.operations op hop op' hop' heq
    · rw [t.name_concreteFile_schemaOnly hname'] at heq
      exact absurd heq.symm (hapart.mixed name' hname' op hop)
  · rw [t.name_concreteFile_schemaOnly hname] at heq
    rcases t.isConcrete_iff_home_or_schemaOnly.1 h' with ⟨op', hop', rfl⟩ | ⟨name', hname', rfl⟩
    · rw [t.name_concreteFile_home hop'] at heq
      exact absurd heq (hapart.mixed name hname op' hop')
    · rw [t.name_concreteFile_schemaOnly hname', fileName_singleton_inj] at heq
      rw [hapart.schemas name name' hname hname' heq]

theorem pathsApart_of_forall
    (h : ∀ m m', t.plan.IsConcrete m → t.plan.IsConcrete m' →
      (t.plan.concreteFile m).name = (t.plan.concreteFile m').name → m = m') :
    t.plan.PathsApart := by
  have hhome : ∀ op ∈ t.operations, t.plan.IsConcrete op.home := fun op hop => .inr ⟨op, hop, rfl⟩
  have hschema : ∀ name, t.plan.SchemaOnly name → t.plan.IsConcrete ⟨[name], false⟩ :=
    fun name hname => t.isConcrete_iff_home_or_schemaOnly.2 (.inr ⟨name, hname, rfl⟩)
  refine ⟨?_, ?_, ?_⟩
  · intro op hop op' hop' heq
    refine h op.home op'.home (hhome op hop) (hhome op' hop') ?_
    rw [t.name_concreteFile_home hop, t.name_concreteFile_home hop']
    exact heq
  · intro name name' hname hname' heq
    have hmodule : (⟨[name], false⟩ : ModuleName) = ⟨[name'], false⟩ := by
      refine h _ _ (hschema name hname) (hschema name' hname') ?_
      rw [t.name_concreteFile_schemaOnly hname, t.name_concreteFile_schemaOnly hname',
        fileName_singleton_inj]
      exact heq
    cases hmodule
    rfl
  · intro name hname op hop heq
    refine hname.2 op hop (h _ _ (hschema name hname) (hhome op hop) ?_).symm
    rw [t.name_concreteFile_schemaOnly hname, t.name_concreteFile_home hop]
    exact heq

/-- The interface of a module has a path of its own. -/
theorem name_concreteFile_ne_interface (m m' : ModuleName) :
    (t.plan.concreteFile m).name ≠ (s.config.moduleInterface t.operations m').name := by
  obtain ⟨directories, hname⟩ := t.exists_name_concreteFile m
  rw [hname]
  exact fileName_ne_interface directories m (s.config.operationFileName m')

/-- All paths are different exactly if those of the modules of schemas and operations are. -/
theorem nodup_paths_iff : (t.plan.files.values.map FileUnit.name).Nodup ↔ t.plan.PathsApart := by
  rw [OrderedMap.nodup_map_values_iff]
  constructor
  · intro h
    exact t.pathsApart_of_forall fun m m' hm hm' heq =>
      h m _ m' _ (t.get?_files_of_isConcrete hm) (t.get?_files_of_isConcrete hm') heq
  · intro hapart m unit m' unit' hunit hunit' heq
    rcases t.get?_files_cases hunit with ⟨hm, rfl⟩ | ⟨op, hop, rfl, rfl⟩
    · rcases t.get?_files_cases hunit' with ⟨hm', rfl⟩ | ⟨op', -, -, rfl⟩
      · exact t.eq_of_name_concreteFile_eq hapart hm hm' heq
      · exact absurd heq (t.name_concreteFile_ne_interface m op'.home)
    · rcases t.get?_files_cases hunit' with ⟨-, rfl⟩ | ⟨op', hop', rfl, rfl⟩
      · exact absurd heq.symm (t.name_concreteFile_ne_interface m' op.home)
      · have hpath : s.config.operationFileName op.home ++ interfaceEnding =
            s.config.operationFileName op'.home ++ interfaceEnding := heq
        rw [hapart.operations op hop op' hop' ((String.append_left_inj interfaceEnding).1 hpath)]

end Setting.Stages

/-! ## All paths -/

/-- At the end of every run all paths are different, and every rendering keeps the text of every
file, exactly if the paths of the modules of schemas and operations are apart. -/
theorem pathsApart_iff_of_run {s : Setting} {p : PlanState} (h : s.start.run.outcome = .ok p) :
    ((p.files.values.map FileUnit.name).Nodup ↔ p.PathsApart) ∧
      ∀ render : ModuleName → FileUnit → String, ∃ out,
        p.emit (fun m unit => .ok (render m unit)) = .ok out ∧
        (out.size = p.files.size ↔ p.PathsApart) ∧
        (p.PathsApart → ∀ m unit, p.files.get? m = some unit →
          out.get? unit.name = some (render (m.qualify p.config.baseModule) unit)) := by
  obtain ⟨t, rfl⟩ := Setting.run_eq_ok_iff.1 h
  have hnodup := t.nodup_paths_iff
  refine ⟨hnodup, fun render => ?_⟩
  obtain ⟨out, hout, hsize, htext⟩ := emit_complete render t.plan.config.baseModule t.plan.files
  exact ⟨out, hout, hsize.trans hnodup, fun hapart => htext (hnodup.2 hapart)⟩

/-- A document with two tags that differ by a blank only. -/
def blankDocument : Value :=
  .ofFields [("paths", .ofFields [("/x", .ofFields [
    ("get", .ofFields [("operationId", .str "first"), ("tags", .list [.str "a b"]),
      ("responses", .ofFields [])]),
    ("post", .ofFields [("operationId", .str "second"), ("tags", .list [.str "ab"]),
      ("responses", .ofFields [])])])])]

/-- The modules of two tags that differ by a blank have one path, so one of two texts is lost. -/
theorem pathsApart_iff_blank : ∃ (s : Setting) (p : PlanState) (out : OrderedMap String String),
    s.start.run.outcome = .ok p ∧ ¬ (p.files.values.map FileUnit.name).Nodup ∧
      ¬ p.PathsApart ∧ p.emit (fun m _ => .ok m.dotted) = .ok out ∧ out.size ≠ p.files.size := by
  let first : ModuleName := ⟨["AB"], false⟩
  let second : ModuleName := ⟨["Ab"], false⟩
  obtain ⟨api, f, hapi, hf, htest⟩ := Setting.exists_discover blankDocument "3.0.3"
    structuralSetting 2
    (fun api f => f.schemas.entries.isEmpty &&
      ((structuralSetting api).operations f.names).outcome.toOption.any fun operations =>
        operations.map Operation.home == [first, second])
    (fun _ => rfl) (by decide +kernel)
  obtain ⟨hempty, hoperations⟩ := Bool.and_eq_true_iff.1 htest
  obtain ⟨operations, ho, hsame⟩ := toOption_any_eq_true.1 hoperations
  have hhomes : operations.map Operation.home = [first, second] := eq_of_beq hsame
  obtain ⟨schemas, hd⟩ := Setting.exists_describe (structuralSetting api) f.names
    fun name schema hschema => by
      rw [OrderedMap.get?_eq_some_iff, List.isEmpty_iff.1 hempty] at hschema
      cases hschema
  obtain ⟨t, -, -, rfl⟩ := Setting.exists_stages hf hd ho fun hi => by cases hi
  have hrun := Setting.run_eq_ok_iff.2 ⟨t, rfl⟩
  obtain ⟨hnodup, hemit⟩ := pathsApart_iff_of_run hrun
  have hmeet : ¬ t.plan.PathsApart := by
    intro hapart
    have hfirst : first ∈ t.operations.map Operation.home := by
      rw [hhomes]
      exact List.mem_cons_self
    have hsecond : second ∈ t.operations.map Operation.home := by
      rw [hhomes]
      exact List.mem_cons_of_mem _ List.mem_cons_self
    obtain ⟨op, hop, hhome⟩ := List.mem_map.1 hfirst
    obtain ⟨op', hop', hhome'⟩ := List.mem_map.1 hsecond
    have heq := hapart.operations op hop op' hop'
    rw [hhome, hhome'] at heq
    have hpath : Config.operationFileName default first =
        Config.operationFileName default second := by decide +kernel
    exact absurd (heq hpath) (by decide)
  obtain ⟨out, hout, hsize, -⟩ := hemit fun m _ => m.dotted
  exact ⟨structuralSetting api, t.plan, out, hrun, fun h => hmeet (hnodup.1 h), hmeet, hout,
    fun h => hmeet (hsize.1 h)⟩

end ClientPlan
