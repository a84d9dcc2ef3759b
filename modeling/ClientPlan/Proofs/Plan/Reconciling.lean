import ClientPlan.Proofs.Plan.Files

/-!
# Reconciled files

Schema files, operation files and interface files are put together in two passes over one map: the
operation files are merged into the schema files in place, and then the interface files are added up
to the first that meets another file.  `Reconciled` says what comes out, without any order of passes.

Main statement: reconciling fails exactly at the first interface file that meets another file, and
gives exactly the reconciled files otherwise (`reconcile_iff`).
-/

set_option autoImplicit false

namespace ClientPlan

variable {schemaFiles operationFiles interfaceFiles files files' : FileMap} {m : ModuleName}

/-! ## Modules that meet -/

/-- A module has a schema file or an operation file. -/
def HasConcrete (schemaFiles operationFiles : FileMap) (m : ModuleName) : Prop :=
  m ∈ schemaFiles.keys ∨ m ∈ operationFiles.keys

instance (m : ModuleName) : Decidable (HasConcrete schemaFiles operationFiles m) :=
  inferInstanceAs (Decidable (_ ∨ _))

/-- The first module of an interface file that has a schema file or an operation file too. -/
def firstClash? (schemaFiles operationFiles interfaceFiles : FileMap) : Option ModuleName :=
  interfaceFiles.keys.find? fun m => HasConcrete schemaFiles operationFiles m

theorem firstClash?_eq_none_iff : firstClash? schemaFiles operationFiles interfaceFiles = none ↔
    ∀ m ∈ interfaceFiles.keys, ¬ HasConcrete schemaFiles operationFiles m := by
  simp [firstClash?]

/-! ## What comes out -/

/-- `files` are the schema files, the operation files and the interface files put together. -/
structure Reconciled (schemaFiles operationFiles interfaceFiles files : FileMap) : Prop where
  /-- The modules of schema files come first, then the other modules of operation files, then those
  of interface files, each in their order. -/
  keys : files.keys = schemaFiles.keys ++ operationFiles.keys.filter (· ∉ schemaFiles.keys) ++
    interfaceFiles.keys
  /-- A schema file that meets no operation file stays as it is. -/
  schema : ∀ m unit, schemaFiles.get? m = some unit → operationFiles.get? m = none →
    files.get? m = some unit
  /-- An operation file that meets no schema file stays as it is. -/
  operation : ∀ m unit, operationFiles.get? m = some unit → schemaFiles.get? m = none →
    files.get? m = some unit
  /-- An interface file stays as it is. -/
  interface : ∀ m unit, interfaceFiles.get? m = some unit → files.get? m = some unit
  /-- A schema file and an operation file of one module become one file: it has the name, the module
  and the operations of the operation file and the schemas of the schema file, and the directives of
  the operation file come before those of the schema file. -/
  both : ∀ m schemaUnit operationUnit, schemaFiles.get? m = some schemaUnit →
    operationFiles.get? m = some operationUnit →
      files.get? m = some {
        name := operationUnit.name
        target := operationUnit.target
        operations := operationUnit.operations
        schemas := schemaUnit.schemas
        directives := operationUnit.directives ++ schemaUnit.directives
        isInterface := false }

/-- Files put together in the same way are the same. -/
theorem Reconciled.unique (h : Reconciled schemaFiles operationFiles interfaceFiles files)
    (h' : Reconciled schemaFiles operationFiles interfaceFiles files') : files = files' := by
  refine OrderedMap.ext_get? (h.keys.trans h'.keys.symm) fun m => ?_
  cases hi : interfaceFiles.get? m with
  | some unit => rw [h.interface m unit hi, h'.interface m unit hi]
  | none =>
    cases ho : operationFiles.get? m with
    | some operationUnit =>
      cases hs : schemaFiles.get? m with
      | some schemaUnit => rw [h.both m _ _ hs ho, h'.both m _ _ hs ho]
      | none => rw [h.operation m _ ho hs, h'.operation m _ ho hs]
    | none =>
      cases hs : schemaFiles.get? m with
      | some schemaUnit => rw [h.schema m _ hs ho, h'.schema m _ hs ho]
      | none =>
        -- No other file is at a module without any file.
        have hm : m ∉ files.keys := by
          rw [h.keys]
          simp only [List.mem_append, List.mem_filter]
          rw [OrderedMap.get?_eq_none_iff] at hi ho hs
          exact fun hm => hm.elim (fun hm => hm.elim hs fun hm => ho hm.1) hi
        have hm' : m ∉ files'.keys := by rwa [h'.keys, ← h.keys]
        rw [OrderedMap.get?_eq_none_iff.2 hm, OrderedMap.get?_eq_none_iff.2 hm']

/-! ## The two passes -/

/-- The schema files with all operation files merged into them. -/
def mergedFiles (schemaFiles operationFiles : FileMap) : FileMap :=
  operationFiles.entries.foldl (fun files e => mergeOperationFile files e.1 e.2) schemaFiles

theorem keys_mergedFiles (schemaFiles operationFiles : FileMap) :
    (mergedFiles schemaFiles operationFiles).keys =
      schemaFiles.keys ++ operationFiles.keys.filter (· ∉ schemaFiles.keys) := by
  simp only [mergedFiles, mergeOperationFile_eq]
  exact OrderedMap.keys_foldl_insert FileUnit.mergeInto operationFiles schemaFiles

theorem mem_keys_mergedFiles :
    m ∈ (mergedFiles schemaFiles operationFiles).keys ↔
      HasConcrete schemaFiles operationFiles m := by
  rw [keys_mergedFiles, HasConcrete, List.mem_append, List.mem_filter, decide_eq_true_eq]
  by_cases hm : m ∈ schemaFiles.keys <;> simp [hm]

/-- Reconciling adds the interface files to the merged files up to the first clash. -/
theorem reconcile_eq : reconcile schemaFiles operationFiles interfaceFiles =
    match firstClash? schemaFiles operationFiles interfaceFiles with
    | some m => .error (.unsupportedMerge m)
    | none => .ok (interfaceFiles.entries.foldl (fun files e => files.insert e.1 e.2)
        (mergedFiles schemaFiles operationFiles)) := by
  have hclash : firstClash? schemaFiles operationFiles interfaceFiles =
      interfaceFiles.keys.find? (· ∈ (mergedFiles schemaFiles operationFiles).keys) := by
    simp only [firstClash?, mem_keys_mergedFiles]
  rw [hclash]
  exact foldlM_addInterfaceFile_eq interfaceFiles.nodup (mergedFiles schemaFiles operationFiles)

theorem keys_of_reconcile (h : reconcile schemaFiles operationFiles interfaceFiles = .ok files) :
    files.keys = schemaFiles.keys ++ operationFiles.keys.filter (· ∉ schemaFiles.keys) ++
      interfaceFiles.keys := by
  rw [reconcile_eq] at h
  split at h
  · cases h
  · next hnone =>
    cases h
    have hnew : ∀ m ∈ interfaceFiles.keys,
        m ∉ (mergedFiles schemaFiles operationFiles).keys := fun m hm hmerged =>
      firstClash?_eq_none_iff.1 hnone m hm (mem_keys_mergedFiles.1 hmerged)
    have hfilter : interfaceFiles.keys.filter
        (· ∉ (mergedFiles schemaFiles operationFiles).keys) = interfaceFiles.keys :=
      List.filter_eq_self.2 fun m hm => by simpa using hnew m hm
    rw [OrderedMap.keys_foldl_insert (fun _ unit => unit) interfaceFiles, hfilter,
      keys_mergedFiles]

/-- What reconciling gives is what comes out of putting the files together. -/
theorem reconciled_of_reconcile
    (h : reconcile schemaFiles operationFiles interfaceFiles = .ok files) :
    Reconciled schemaFiles operationFiles interfaceFiles files := by
  have hnone {m : ModuleName} (hm : HasConcrete schemaFiles operationFiles m) :
      interfaceFiles.get? m = none := by
    rw [OrderedMap.get?_eq_none_iff]
    intro hi
    obtain ⟨hs, ho⟩ := (get?_reconcile h m).1 hi
    rw [OrderedMap.get?_eq_none_iff] at hs ho
    exact hm.elim hs ho
  refine ⟨keys_of_reconcile h, ?_, ?_, ?_, ?_⟩
  · intro m unit hs ho
    rw [(get?_reconcile h m).2, hnone (.inl (OrderedMap.mem_keys_iff.2 ⟨unit, hs⟩)), ho]
    exact hs
  · intro m unit ho hs
    rw [(get?_reconcile h m).2, hnone (.inr (OrderedMap.mem_keys_iff.2 ⟨unit, ho⟩)), ho, hs]
    rfl
  · intro m unit hi
    rw [(get?_reconcile h m).2, hi]
  · intro m schemaUnit operationUnit hs ho
    rw [(get?_reconcile h m).2, hnone (.inl (OrderedMap.mem_keys_iff.2 ⟨schemaUnit, hs⟩)), ho, hs]
    rfl

/-- Reconciling fails exactly if an interface file meets another file, and names the module of the
first that does.  Otherwise it gives the reconciled files and nothing else. -/
theorem reconcile_iff (schemaFiles operationFiles interfaceFiles : FileMap) :
    (∀ e, reconcile schemaFiles operationFiles interfaceFiles = .error e ↔
      ∃ m, firstClash? schemaFiles operationFiles interfaceFiles = some m ∧
        e = .unsupportedMerge m) ∧
    ∀ files, reconcile schemaFiles operationFiles interfaceFiles = .ok files ↔
      (∀ m ∈ interfaceFiles.keys, ¬ HasConcrete schemaFiles operationFiles m) ∧
        Reconciled schemaFiles operationFiles interfaceFiles files := by
  constructor
  · intro e
    rw [reconcile_eq]
    cases firstClash? schemaFiles operationFiles interfaceFiles <;> simp [eq_comm]
  · intro files
    constructor
    · intro h
      refine ⟨firstClash?_eq_none_iff.1 ?_, reconciled_of_reconcile h⟩
      rw [reconcile_eq] at h
      split at h
      · cases h
      · assumption
    · rintro ⟨hnew, hfiles⟩
      have hsome : ∃ files', reconcile schemaFiles operationFiles interfaceFiles = .ok files' := by
        rw [reconcile_eq, firstClash?_eq_none_iff.2 hnew]
        exact ⟨_, rfl⟩
      obtain ⟨files', h⟩ := hsome
      rw [h, hfiles.unique (reconciled_of_reconcile h)]

end ClientPlan
