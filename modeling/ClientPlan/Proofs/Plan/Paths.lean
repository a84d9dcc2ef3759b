import ClientPlan.Proofs.Plan.Files

/-!
# Paths of files

The path of a file is its stem behind some directories: what stands before the stem is empty or ends
in a slash (`exists_joinPath`).  A stem has no dot, so no path of a module is the path of an
interface (`fileName_ne_interface`).
-/

set_option autoImplicit false

namespace ClientPlan

/-! ## Joining -/

theorem toList_suffix_of_endsWith {s suffix : String} (h : s.endsWith suffix = true) :
    suffix.toList <:+ s.toList := by
  have hslice : s.toSlice.endsWith suffix = true := h
  rw [String.Slice.endsWith_string_iff, String.copy_toSlice] at hslice
  exact hslice

/-- What stands before a part in a path: nothing, or a text that ends in a slash. -/
def IsLead (lead : String) : Prop := lead = "" ∨ ['/'] <:+ lead.toList

/-- A part that is not absolute is put behind a lead that depends on the path alone. -/
theorem exists_joinPart (path : String) : ∃ lead, IsLead lead ∧
    ∀ part : String, part.startsWith "/" = false → joinPart path part = lead ++ part := by
  by_cases hpath : (path == "" || path.endsWith "/") = true
  · refine ⟨path, ?_, fun part hpart => ?_⟩
    · rcases Bool.or_eq_true_iff.1 hpath with h | h
      · exact .inl (eq_of_beq h)
      · exact .inr (toList_suffix_of_endsWith h)
    · rw [joinPart, hpart, if_neg Bool.false_ne_true, if_pos hpath]
  · refine ⟨path ++ "/", .inr ?_, fun part hpart => ?_⟩
    · rw [String.toList_append]
      exact List.suffix_append _ _
    · rw [joinPart, hpart, if_neg Bool.false_ne_true, if_neg hpath]

/-- A name that is not absolute is put behind a lead that depends on the directories alone. -/
theorem exists_joinPath (directories : List String) : ∃ lead, IsLead lead ∧
    ∀ name : String, name.startsWith "/" = false → joinPath directories name = lead ++ name := by
  unfold joinPath
  cases directories.filter (· != "") with
  | nil => exact ⟨"", .inl rfl, fun name _ => String.empty_append.symm⟩
  | cons first rest =>
    obtain ⟨lead, hlead, hjoin⟩ := exists_joinPart (rest.foldl joinPart first)
    refine ⟨lead, hlead, fun name hname => ?_⟩
    show (rest ++ [name]).foldl joinPart first = _
    rw [List.foldl_append, List.foldl_cons, List.foldl_nil, hjoin name hname]

/-- An absolute name discards the directories. -/
theorem joinPath_of_startsWith (directories : List String) {name : String}
    (h : name.startsWith "/" = true) : joinPath directories name = name := by
  unfold joinPath
  cases directories.filter (· != "") with
  | nil => rfl
  | cons first rest =>
    show (rest ++ [name]).foldl joinPart first = name
    rw [List.foldl_append, List.foldl_cons, List.foldl_nil, joinPart, if_pos h]

/-- Every path ends in its name, behind a lead. -/
theorem exists_lead (directories : List String) (name : String) :
    ∃ lead, IsLead lead ∧ joinPath directories name = lead ++ name := by
  cases h : name.startsWith "/" with
  | true =>
    exact ⟨"", .inl rfl, by rw [joinPath_of_startsWith directories h, String.empty_append]⟩
  | false =>
    obtain ⟨lead, hlead, hjoin⟩ := exists_joinPath directories
    exact ⟨lead, hlead, hjoin name h⟩

/-- Names that are not absolute are told apart in every directory. -/
theorem joinPath_inj (directories : List String) {name name' : String}
    (h : name.startsWith "/" = false) (h' : name'.startsWith "/" = false) :
    joinPath directories name = joinPath directories name' ↔ name = name' := by
  obtain ⟨lead, -, hjoin⟩ := exists_joinPath directories
  rw [hjoin name h, hjoin name' h', String.append_right_inj]

/-! ## Stems -/

/-- A stem is made of lowercase letters, digits, underscores and slashes. -/
theorem mem_stem {m : ModuleName} {c : Char} (h : c ∈ m.stem.toList) :
    c = '/' ∨ c = '_' ∨ Naming.isLower c = true := by
  rw [ModuleName.stem, String.toList_intercalate] at h
  rcases Naming.mem_of_mem_intercalate h with h | ⟨t, ht, hc⟩
  · exact .inl (List.mem_singleton.1 h)
  · obtain ⟨name, hname, rfl⟩ := List.mem_map.1 ht
    obtain ⟨segment, -, rfl⟩ := List.mem_map.1 hname
    exact .inr (Naming.mem_functionName hc)

theorem dot_not_mem_stem (m : ModuleName) : '.' ∉ m.stem.toList := by
  intro h
  rcases mem_stem h with h | h | h
  · revert h
    decide
  · revert h
    decide
  · revert h
    decide

/-- The stem of a module with one segment is the function name of the segment. -/
theorem stem_singleton (name : String) (qualified : Bool) :
    (⟨[name], qualified⟩ : ModuleName).stem = Naming.functionName name := by
  rw [ModuleName.stem, List.map_singleton, String.intercalate_singleton]

theorem startsWith_functionName (name : String) :
    (Naming.functionName name).startsWith "/" = false := by
  rw [String.startsWith_string_eq_false_iff]
  rintro ⟨rest, hrest⟩
  have hslash : '/' ∈ (Naming.functionName name).toList := by
    rw [← hrest]
    exact List.mem_cons_self
  rcases Naming.mem_functionName hslash with h | h
  · revert h
    decide
  · revert h
    decide

/-- The path of a module is not that of an interface. -/
theorem fileName_ne_interface (directories : List String) (m : ModuleName) (path : String) :
    fileName directories m ≠ path ++ interfaceEnding := by
  intro heq
  obtain ⟨lead, hlead, hpath⟩ := exists_lead directories m.stem
  rw [fileName, hpath] at heq
  have hlist := congrArg String.toList heq
  rw [String.toList_append, String.toList_append] at hlist
  have hdot : '.' ∈ interfaceEnding.toList := by decide
  have hslash : '/' ∉ interfaceEnding.toList := by decide
  rcases List.append_eq_append_iff.1 hlist with ⟨r, -, hr⟩ | ⟨r, hr, hending⟩
  · -- the whole ending stands in the stem
    refine dot_not_mem_stem m ?_
    rw [hr]
    exact List.mem_append_right r hdot
  · -- the ending reaches into the lead, or is the stem
    cases r using List.reverseRecOn with
    | nil =>
      rw [List.nil_append] at hending
      exact dot_not_mem_stem m (hending ▸ hdot)
    | append_singleton r c =>
      have hc : c = '/' := by
        rcases hlead with rfl | ⟨l, hl⟩
        · simp at hr
        · rw [← hl, ← List.append_assoc] at hr
          have hlast := (List.append_inj' hr rfl).2
          exact (List.cons.inj hlast).1.symm
      refine hslash ?_
      rw [hending, hc]
      simp

end ClientPlan
