import ClientPlan.Plan.Files
import ClientPlan.Proofs.Naming.Token
import ClientPlan.Proofs.OrderedMap
import ClientPlan.Proofs.Outcome
import Mathlib.Data.List.Find

/-!
# What files hold

The files of schemas and those of operations are gathered by module, so the file of a module holds
the schemas or operations of that module and nothing else (`get?_operationFiles`,
`get?_schemaFiles`).  Reconciling puts an operation file and the schema file of its module together
and adds the interface files, which are the files of other modules (`get?_reconcile`).
-/

set_option autoImplicit false

namespace ClientPlan

/-! ## Modules -/

/-- Modules with equal modules inside them are equal. -/
theorem ModuleName.child_inj {m m' : ModuleName} {segment : String} :
    m.child segment = m'.child segment ↔ m = m' := by
  constructor
  · intro h
    have hsegments : m.segments = m'.segments :=
      List.append_cancel_right (congrArg ModuleName.segments h)
    have hqualified : (m.child segment).qualified = (m'.child segment).qualified := by rw [h]
    cases m
    cases m'
    cases hsegments
    cases hqualified
    rfl
  · rintro rfl
    rfl

/-- A text of letters and digits names the module with that segment only. -/
theorem ModuleName.ofDotted_of_isAlphanum {s : String} (hs : s ≠ "")
    (h : ∀ c ∈ s.toList, c.isAlphanum = true) : ModuleName.ofDotted s = ⟨[s], false⟩ := by
  rw [ModuleName.ofDotted, dotParts_of_isAlphanum hs h]

/-! ## Collecting operations -/

/-- The operations of a module, in order. -/
def homedAt (operations : List Operation) (m : ModuleName) : List Operation :=
  operations.filter fun op => op.home = m

theorem mem_homedAt {operations : List Operation} {m : ModuleName} {op : Operation} :
    op ∈ homedAt operations m ↔ op ∈ operations ∧ op.home = m := by
  simp [homedAt]

namespace Config

variable (c : Config)

/-- The file of the operations of a module. -/
def moduleFile (operations : List Operation) (m : ModuleName) : FileUnit :=
  { name := c.operationFileName m
    target := m
    operations := homedAt operations m
    directives := givenList c.defaultClient }

/-- The interface file of the operations of a module. -/
def moduleInterface (operations : List Operation) (m : ModuleName) : FileUnit :=
  { name := c.operationFileName m ++ interfaceEnding
    target := m.child c.interfaceSuffix
    operations := homedAt operations m
    isInterface := true }

end Config

theorem foldl_operations (l : List Operation) (u : FileUnit) :
    l.foldl (fun (f : FileUnit) op => { f with operations := f.operations ++ [op] }) u =
      { u with operations := u.operations ++ l } := by
  induction l generalizing u with
  | nil => simp
  | cons op l ih =>
    rw [List.foldl_cons, ih]
    simp

/-- The file at a module holds the operations whose own files are there, in order. -/
theorem get?_filesOfOperations {unit : Operation → FileUnit}
    (hunit : ∀ op, (unit op).operations = [op]) (operations : List Operation) (m : ModuleName) :
    (filesOfOperations unit operations).get? m =
      (operations.filter fun op => (unit op).target = m).head?.map fun op =>
        { unit op with operations := operations.filter fun op => (unit op).target = m } := by
  have hgather : filesOfOperations unit operations =
      operations.foldl (OrderedMap.gather (fun op => (unit op).target) unit
        fun f op => { f with operations := f.operations ++ [op] }) OrderedMap.empty := rfl
  rw [hgather, OrderedMap.get?_foldl_gather]
  cases operations.filter fun op => (unit op).target = m with
  | nil => rfl
  | cons op r =>
    rw [OrderedMap.grown, foldl_operations, hunit]
    rfl

namespace Config

variable (c : Config)

/-- The operation file of a module holds the operations of the module. -/
theorem get?_operationFiles (operations : List Operation) (m : ModuleName) :
    (c.operationFiles operations).get? m =
      if homedAt operations m = [] then none else some (c.moduleFile operations m) := by
  have hfilter : (operations.filter fun op => (c.operationUnit op).target = m) =
      homedAt operations m := rfl
  rw [operationFiles, get?_filesOfOperations fun _ => rfl, hfilter]
  cases hl : homedAt operations m with
  | nil => rfl
  | cons op r =>
    have hop : op.home = m := (mem_homedAt.1 (hl ▸ List.mem_cons_self)).2
    rw [if_neg (List.cons_ne_nil op r), moduleFile, hl, ← hop]
    rfl

/-- The interface file of a module holds the operations of the module. -/
theorem get?_interfaceFiles (h : c.interfaces = true) (operations : List Operation)
    (m : ModuleName) :
    (c.interfaceFiles operations).get? (m.child c.interfaceSuffix) =
      if homedAt operations m = [] then none else some (c.moduleInterface operations m) := by
  rw [interfaceFiles, if_pos h, get?_filesOfOperations fun _ => rfl]
  have hfilter : (operations.filter fun op =>
      (c.interfaceUnit op).target = m.child c.interfaceSuffix) = homedAt operations m := by
    refine List.filter_congr fun op _ => ?_
    show decide (op.home.child _ = m.child _) = decide (op.home = m)
    rw [decide_eq_decide]
    exact ModuleName.child_inj
  rw [hfilter]
  cases hl : homedAt operations m with
  | nil => rfl
  | cons op r =>
    have hop : op.home = m := (mem_homedAt.1 (hl ▸ List.mem_cons_self)).2
    rw [if_neg (List.cons_ne_nil op r), moduleInterface, hl, ← hop]
    rfl

/-- Interface files are wanted, and they are those of the modules of operations. -/
theorem mem_keys_interfaceFiles {operations : List Operation} {m : ModuleName} :
    m ∈ (c.interfaceFiles operations).keys ↔
      c.interfaces = true ∧ ∃ op ∈ operations, m = op.home.child c.interfaceSuffix := by
  unfold interfaceFiles
  split
  · next h =>
    have hkeys : (filesOfOperations c.interfaceUnit operations).keys =
        (operations.map fun op => op.home.child c.interfaceSuffix).eraseDups :=
      OrderedMap.keys_foldl_gather operations
    rw [hkeys, List.mem_eraseDups, List.mem_map]
    constructor
    · rintro ⟨op, hop, rfl⟩
      exact ⟨h, op, hop, rfl⟩
    · rintro ⟨-, op, hop, rfl⟩
      exact ⟨op, hop, rfl⟩
  · next h => simp [h]

/-! ## Collecting schemas -/

/-- The file of a module that one schema is at home in is the file of that schema. -/
theorem get?_schemaFiles {schemas : List Schema} {m : ModuleName} {schema? : Option Schema}
    (h : (schemas.filter fun schema => (c.schemaUnit schema).target = m) = schema?.toList) :
    (c.schemaFiles schemas).get? m = schema?.map c.schemaUnit := by
  have hgather : c.schemaFiles schemas =
      schemas.foldl (OrderedMap.gather (fun schema => (c.schemaUnit schema).target) c.schemaUnit
        fun f schema => { f with
          schemas := f.schemas ++ [schema]
          directives := f.directives ++ (c.schemaUnit schema).directives }) OrderedMap.empty := rfl
  rw [hgather, OrderedMap.get?_foldl_gather, h]
  cases schema? <;> rfl

/-- Every schema file is at the module of a schema. -/
theorem exists_of_get?_schemaFiles {schemas : List Schema} {m : ModuleName} {unit : FileUnit}
    (h : (c.schemaFiles schemas).get? m = some unit) :
    ∃ schema ∈ schemas, (c.schemaUnit schema).target = m := by
  have hkeys : (c.schemaFiles schemas).keys =
      (schemas.map fun schema => (c.schemaUnit schema).target).eraseDups :=
    OrderedMap.keys_foldl_gather schemas
  have hm : m ∈ (c.schemaFiles schemas).keys := OrderedMap.mem_keys_iff.2 ⟨unit, h⟩
  rw [hkeys, List.mem_eraseDups, List.mem_map] at hm
  exact hm

end Config

/-! ## Reconciling -/

/-- The file of a module, given its schema file, for its operation file. -/
def FileUnit.mergeInto (schemaUnit? : Option FileUnit) (operationUnit : FileUnit) : FileUnit :=
  match schemaUnit? with
  | none => operationUnit
  | some schemaUnit => schemaUnit.merge operationUnit

theorem mergeOperationFile_eq (files : FileMap) (m : ModuleName) (unit : FileUnit) :
    mergeOperationFile files m unit = files.insert m (FileUnit.mergeInto (files.get? m) unit) := by
  unfold mergeOperationFile FileUnit.mergeInto
  cases files.get? m <;> rfl

/-- Interface files are added one after another up to the first that meets another file. -/
theorem foldlM_addInterfaceFile_eq {l : List (ModuleName × FileUnit)} (hl : (l.map Prod.fst).Nodup)
    (files : FileMap) :
    l.foldlM (fun files e => addInterfaceFile files e.1 e.2) files =
      match (l.map Prod.fst).find? (· ∈ files.keys) with
      | some m => .error (.unsupportedMerge m)
      | none => .ok (l.foldl (fun files e => files.insert e.1 e.2) files) := by
  induction l generalizing files with
  | nil => rfl
  | cons e r ih =>
    rw [List.map_cons, List.nodup_cons] at hl
    rw [List.foldlM_cons, List.map_cons, List.foldl_cons, addInterfaceFile]
    by_cases he : e.1 ∈ files.keys
    · rw [if_pos ((files.contains_iff _).2 he), List.find?_cons_of_pos (by simpa using he)]
      rfl
    · rw [if_neg fun h => he ((files.contains_iff _).1 h),
        List.find?_cons_of_neg (by simpa using he)]
      -- The files that come after have other modules, so they meet what they met before.
      have hfind : (r.map Prod.fst).find? (· ∈ (files.insert e.1 e.2).keys) =
          (r.map Prod.fst).find? (· ∈ files.keys) := by
        refine List.find?_congr fun m hm => ?_
        have hne : m ≠ e.1 := fun h => hl.1 (h ▸ hm)
        rw [decide_eq_decide, OrderedMap.mem_keys_insert]
        exact ⟨fun h => h.resolve_right hne, .inl⟩
      exact (ih hl.2 _).trans (by rw [hfind])

/-- Interface files are added exactly if none of them meets another file. -/
theorem foldlM_addInterfaceFile {l : List (ModuleName × FileUnit)} (hl : (l.map Prod.fst).Nodup)
    {files out : FileMap} :
    l.foldlM (fun files e => addInterfaceFile files e.1 e.2) files = .ok out ↔
      (∀ e ∈ l, e.1 ∉ files.keys) ∧ out = l.foldl (fun files e => files.insert e.1 e.2) files := by
  rw [foldlM_addInterfaceFile_eq hl]
  split
  · next m hm =>
    obtain ⟨e, he, rfl⟩ := List.mem_map.1 (List.mem_of_find?_eq_some hm)
    have hmeets : e.1 ∈ files.keys := by simpa using List.find?_some hm
    exact iff_of_false (fun h => by cases h) fun h => h.1 e he hmeets
  · next hnone =>
    have hnew : ∀ e ∈ l, e.1 ∉ files.keys := by
      intro e he
      simpa using List.find?_eq_none.1 hnone e.1 (List.mem_map_of_mem he)
    rw [Except.ok.injEq, eq_comm, and_iff_right hnew]

/-- Files can be reconciled if no interface file meets another file. -/
theorem exists_reconcile {schemaFiles operationFiles interfaceFiles : FileMap}
    (h : ∀ m ∈ interfaceFiles.keys, schemaFiles.get? m = none ∧ operationFiles.get? m = none) :
    ∃ files, reconcile schemaFiles operationFiles interfaceFiles = .ok files := by
  unfold reconcile
  simp only [mergeOperationFile_eq]
  refine ⟨_, (foldlM_addInterfaceFile interfaceFiles.nodup).2 ⟨fun e he => ?_, rfl⟩⟩
  obtain ⟨hschema, hoperation⟩ := h e.1 (List.mem_map_of_mem he)
  rw [← OrderedMap.get?_eq_none_iff,
    OrderedMap.get?_foldl_insert FileUnit.mergeInto operationFiles schemaFiles, hoperation]
  exact hschema

/-- What reconciled files hold: interface files are at modules of their own, and at any other module
the operation file is merged with the schema file. -/
theorem get?_reconcile {schemaFiles operationFiles interfaceFiles files : FileMap}
    (h : reconcile schemaFiles operationFiles interfaceFiles = .ok files) (m : ModuleName) :
    (m ∈ interfaceFiles.keys → schemaFiles.get? m = none ∧ operationFiles.get? m = none) ∧
      files.get? m =
        match interfaceFiles.get? m, operationFiles.get? m with
        | some unit, _ => some unit
        | none, some unit => some (FileUnit.mergeInto (schemaFiles.get? m) unit)
        | none, none => schemaFiles.get? m := by
  unfold reconcile at h
  dsimp only at h
  simp only [mergeOperationFile_eq] at h
  obtain ⟨hnew, rfl⟩ := (foldlM_addInterfaceFile interfaceFiles.nodup).1 h
  have hmerged := OrderedMap.get?_foldl_insert FileUnit.mergeInto operationFiles schemaFiles m
  have hadded := OrderedMap.get?_foldl_insert (fun _ unit => unit) interfaceFiles
    (operationFiles.entries.foldl
      (fun files e => files.insert e.1 (FileUnit.mergeInto (files.get? e.1) e.2)) schemaFiles) m
  rw [hmerged] at hadded
  constructor
  · intro hm
    obtain ⟨unit, hunit⟩ := OrderedMap.mem_keys_iff.1 hm
    have hnone := OrderedMap.get?_eq_none_iff.2
      (hnew (m, unit) (OrderedMap.get?_eq_some_iff.1 hunit))
    rw [hmerged] at hnone
    split at hnone
    · cases hnone
    · next hoperation => exact ⟨hnone, hoperation⟩
  · rw [hadded]
    cases interfaceFiles.get? m <;> cases operationFiles.get? m <;> rfl

end ClientPlan
