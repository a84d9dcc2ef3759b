import ClientPlan.Config.Layers
import ClientPlan.Proofs.Json.Writing
import ClientPlan.Proofs.Workspace.Replacing

/-!
# Saving and loading configurations

A project file holds the fields that differ from their defaults, and a field that is left out is read
as its default.  So what is read from the saved fields is the configuration
(`ofEntries_savedEntries`), and a configuration that has been saved is loaded again
(`ofProject_save`).
-/

set_option autoImplicit false

namespace ClientPlan

/-! ## Fields that are left out -/

/-- The entries of those fields of a list that are marked. -/
def markedEntries (l : List ((String × Value) × Bool)) : Entries :=
  (l.filterMap fun (field, marked) => if marked then some field else none).map
    fun e => (.str e.1, e.2)

section markedEntries

variable {l : List ((String × Value) × Bool)} {name : String} {v : Value} {marked : Bool}

theorem markedEntries_cons {field : String × Value} : markedEntries ((field, marked) :: l) =
    if marked then (.str field.1, field.2) :: markedEntries l else markedEntries l := by
  cases marked <;> rfl

theorem lookupText_markedEntries_eq_none (h : name ∉ l.map fun e => e.1.1) :
    lookupText name (markedEntries l) = none := by
  induction l with
  | nil => rfl
  | cons e r ih =>
    obtain ⟨⟨k, w⟩, marked⟩ := e
    rw [List.map_cons, List.mem_cons, not_or] at h
    rw [markedEntries_cons]
    split
    · rw [lookupText, if_neg fun he => h.1 he.symm]
      exact ih h.2
    · exact ih h.2

/-- A field of a list is found just if it is marked. -/
theorem lookupText_markedEntries (hnames : (l.map fun e => e.1.1).Nodup)
    (h : ((name, v), marked) ∈ l) :
    lookupText name (markedEntries l) = if marked then some v else none := by
  induction l with
  | nil => cases h
  | cons e r ih =>
    rw [List.map_cons, List.nodup_cons] at hnames
    rcases List.mem_cons.1 h with rfl | hr
    · rw [markedEntries_cons]
      split
      · rw [lookupText, if_pos rfl]
      · exact lookupText_markedEntries_eq_none hnames.1
    · obtain ⟨⟨k, w⟩, marked'⟩ := e
      have hne : k ≠ name := by
        rintro rfl
        exact hnames.1 (List.mem_map.2 ⟨_, hr, rfl⟩)
      rw [markedEntries_cons]
      split
      · rw [lookupText, if_neg hne]
        exact ih hnames.2 hr
      · exact ih hnames.2 hr

theorem mem_of_mem_markedEntries {e : Value × Value} (h : e ∈ markedEntries l) :
    ∃ field ∈ l, e = (.str field.1.1, field.1.2) := by
  obtain ⟨field, hfield, rfl⟩ := List.mem_map.1 h
  obtain ⟨⟨field', marked⟩, hmem, hmarked⟩ := List.mem_filterMap.1 hfield
  dsimp only at hmarked
  split at hmarked
  · cases hmarked
    exact ⟨_, hmem, rfl⟩
  · cases hmarked

theorem textKeyed_markedEntries (hnames : (l.map fun e => e.1.1).Nodup) :
    textKeyed (markedEntries l) = true := by
  have hsublist : (((markedEntries l).map Prod.fst).filterMap Value.text?).Sublist
      (l.map fun e => e.1.1) := by
    clear hnames
    induction l with
    | nil => exact List.Sublist.slnil
    | cons e r ih =>
      obtain ⟨⟨k, w⟩, marked⟩ := e
      rw [markedEntries_cons]
      split
      · exact ih.cons_cons k
      · exact ih.cons k
  refine textKeyed_iff.2 ⟨fun k hk => ?_, hnames.sublist hsublist⟩
  obtain ⟨e, he, rfl⟩ := List.mem_map.1 hk
  obtain ⟨field, -, rfl⟩ := mem_of_mem_markedEntries he
  rfl

end markedEntries

namespace Options

variable (o : Options)

/-- The fields of options, each marked if it differs from its default. -/
def markedFields : List ((String × Value) × Bool) := o.fields.zip o.changed

/-- The entries that are saved. -/
def savedEntries : Entries := markedEntries o.markedFields

theorem names_markedFields : (o.markedFields.map fun e => e.1.1) = Config.fieldNames := rfl

theorem nodup_names_markedFields : (o.markedFields.map fun e => e.1.1).Nodup := by
  rw [names_markedFields]
  decide

theorem isVerbal_optionalValue (text : Option String) :
    (Config.optionalValue text).isVerbal = true ∧ (Config.optionalValue text).nesting ≤ 1 := by
  cases text with
  | none => exact ⟨rfl, Nat.zero_le 1⟩
  | some text => exact ⟨rfl, Nat.zero_le 1⟩

/-- The value of a field is verbal, and at most a list of texts. -/
theorem isVerbal_of_mem_markedFields {field : (String × Value) × Bool}
    (h : field ∈ o.markedFields) : field.1.2.isVerbal = true ∧ field.1.2.nesting ≤ 1 := by
  have hlist : (Value.list (o.ignore.map Value.str)).isVerbal = true ∧
      (Value.list (o.ignore.map Value.str)).nesting ≤ 1 := by
    rw [Value.isVerbal, Value.areVerbal_iff]
    refine ⟨fun v hv => ?_, Nat.succ_le_succ (Value.nestingOfItems_le_iff.2 fun v hv => ?_)⟩
    · obtain ⟨text, -, rfl⟩ := List.mem_map.1 hv
      rfl
    · obtain ⟨text, -, rfl⟩ := List.mem_map.1 hv
      exact Nat.le_refl 0
  have hfield := (List.of_mem_zip h).1
  simp only [fields, List.mem_cons, List.not_mem_nil, or_false] at hfield
  rcases hfield with h | h | h | h | h | h | h | h | h | h | h | h <;> rw [h]
  all_goals first
    | exact ⟨rfl, Nat.zero_le 1⟩
    | exact isVerbal_optionalValue _
    | exact hlist

/-- What is saved is verbal. -/
theorem isVerbal_savedEntries : (Value.map o.savedEntries).isVerbal = true := by
  rw [Value.isVerbal, Bool.and_eq_true, Value.haveVerbal_iff]
  refine ⟨textKeyed_markedEntries o.nodup_names_markedFields, fun e he => ?_⟩
  obtain ⟨field, hfield, rfl⟩ := mem_of_mem_markedEntries he
  exact (o.isVerbal_of_mem_markedFields hfield).1

/-- What is saved is not deeper than lists in an object. -/
theorem nesting_savedEntries : (Value.map o.savedEntries).nesting ≤ 2 := by
  refine Nat.succ_le_succ (Value.nestingOfEntries_le_iff.2 fun e he => ?_)
  obtain ⟨field, hfield, rfl⟩ := mem_of_mem_markedEntries he
  exact (o.isVerbal_of_mem_markedFields hfield).2

end Options

/-! ## Reading the fields that are saved -/

namespace Config

variable {o : Options}

/-- A field is read as it was, if its value is read so. -/
theorem readField_savedEntries {α : Type} [BEq α] [LawfulBEq α]
    {check : List Step → Value → Checked α}
    {name : String} {v : Value} {a fallback : α} (h : ((name, v), a != fallback) ∈ o.markedFields)
    (hcheck : check [.field name] v = .ok a) :
    readField o.savedEntries check name fallback = .ok a := by
  rw [readField, Options.savedEntries,
    lookupText_markedEntries o.nodup_names_markedFields h]
  by_cases ha : a = fallback
  · rw [ha, bne_self_eq_false]
    rfl
  · rw [bne_iff_ne.2 ha]
    exact hcheck

theorem checkOptionalText_optionalValue {location : List Step} (text : Option String) :
    checkOptionalText location (optionalValue text) = .ok text := by
  cases text <;> rfl

theorem checkTexts_map_str {location : List Step} {n : Nat} (texts : List String) :
    checkTexts location n (texts.map Value.str) = .ok texts := by
  induction texts generalizing n with
  | nil => rfl
  | cons text texts ih =>
    rw [List.map_cons, checkTexts, ih]
    rfl

/-- The options are read from the fields that are saved. -/
theorem readOptions_savedEntries (o : Options) : readOptions o.savedEntries = .ok o := by
  have field {α : Type} [BEq α] [LawfulBEq α] (i : Nat) {check : List Step → Value → Checked α}
      {name : String} {v : Value} {a fallback : α}
      (h : o.markedFields[i]? = some ((name, v), a != fallback))
      (hcheck : check [.field name] v = .ok a) :
      readField o.savedEntries check name fallback = .ok a :=
    readField_savedEntries (List.mem_of_getElem? h) hcheck
  have hlist : checkTextList [.field "ignore"] (.list (o.ignore.map Value.str)) = .ok o.ignore :=
    checkTexts_map_str o.ignore
  unfold readOptions
  dsimp only
  rw [field 0 rfl rfl, field 1 rfl rfl, field 2 rfl rfl, field 3 rfl rfl, field 4 rfl rfl,
    field 5 rfl rfl, field 6 rfl rfl, field 7 rfl (checkOptionalText_optionalValue _),
    field 8 rfl (checkOptionalText_optionalValue _), field 9 rfl rfl, field 10 rfl hlist,
    field 11 rfl (checkOptionalText_optionalValue _)]
  rfl

theorem unknownFields_savedEntries (o : Options) : unknownFields o.savedEntries = [] := by
  rw [unknownFields, List.filterMap_eq_nil_iff]
  intro e he
  obtain ⟨field, hfield, rfl⟩ := mem_of_mem_markedEntries he
  have hname : field.1.1 ∈ fieldNames := by
    rw [← o.names_markedFields]
    exact List.mem_map_of_mem hfield
  dsimp only
  rw [if_pos (List.contains_iff_mem.2 hname)]

/-- The fields that are saved stand for the configuration. -/
theorem ofEntries_savedEntries (c : Config) : ofEntries c.savedEntries = .ok c := by
  have hoptions : ofOptions? c.toOptions = some c := dif_pos c.consistent
  unfold ofEntries
  simp only [unknownFields_savedEntries, readOptions_savedEntries, Checked.both, hoptions]

end Config

/-! ## Line endings -/

/-- A text without carriage returns is read from its octets as it is. -/
theorem fileText_encode {text : String} (h : '\r' ∉ text.toList) :
    fileText (Text.encode text) = .ok text := by
  have hjoin : ∀ (before s : List Char), '\r' ∉ s →
      joinLineEndings before s = before.reverse ++ s := by
    intro before s hs
    induction s generalizing before with
    | nil => rw [joinLineEndings, List.append_nil]
    | cons c s ih =>
      rw [List.mem_cons, not_or] at hs
      rw [joinLineEndings, ih _ hs.2, List.reverse_cons, List.append_assoc]
      rfl
      · exact fun r hc _ => hs.1 hc.symm
      · exact fun hc => hs.1 hc.symm
  rw [fileText, Text.decode?_encode]
  dsimp only
  rw [hjoin [] _ h, List.reverse_nil, List.nil_append, String.ofList_toList]

/-! ## Loading what is saved -/

theorem not_mem_projectText (c : Config) : '\r' ∉ c.projectText.toList := by
  rw [Config.projectText, String.toList_append, List.mem_append, not_or]
  exact ⟨Json.not_mem_write c.isVerbal_savedEntries, by decide⟩

namespace Config

variable {c : Config} {s : Surroundings} {path : Option Path} {files : FileTree}

theorem projectEntries_projectText (stack : Stack) (p : Path) (c : Config) :
    projectEntries stack p (Text.encode c.projectText) = .ok c.savedEntries := by
  have hread : Json.read stack.nesting c.projectText = .ok (.map c.savedEntries) :=
    Json.read_write_append c.isVerbal_savedEntries
      (Nat.le_trans c.nesting_savedEntries stack.two_le_nesting) rfl
  have hsection : lookupText "generator" c.savedEntries = none :=
    lookupText_markedEntries_eq_none (by rw [c.names_markedFields]; decide)
  rw [projectEntries, fileText_encode (not_mem_projectText c)]
  show (projectValue stack p c.projectText >>= _) = _
  rw [projectValue, hread]
  simp only [bind, Except.bind, hsection]
  rfl

/-- A configuration that has been saved is loaded again from the same path. -/
theorem ofProject_save
    (h : (c.save s.device s.directory (projectPath s path)).run.run s.files = (.ok (), files)) :
    ofProject { s with files } path = .ok c := by
  have hread := readFile_of_replaceFile h
  have hpath : projectPath { s with files } path = projectPath s path := rfl
  rw [ofProject, hpath]
  dsimp only
  rw [hread]
  dsimp only
  rw [projectEntries_projectText]
  show ofChecked _ c.savedEntries = _
  rw [ofChecked, ofEntries_savedEntries]
  rfl

/-- A configuration with a line break, a control character and a character beyond the first plane. -/
def unusual : Config where
  useTags := false
  interfaceSuffix := ""
  baseModule := "Größe\r\n\x01\x7f\"\\𝄞"
  schemaUse := some ""
  ignore := ["", "GET /a"]

/-- A working directory in which there is nothing. -/
def emptySurroundings : Surroundings where
  files := FileTree.put {} ["work"] .directory
  directory := ⟨"/", ["work"]⟩
  environment := OrderedMap.empty
  input := ""
  fetch := fun _ => .unreachable ""

/-- That configuration is saved in a directory that is made for it, and loaded again. -/
theorem ofProject_save_unusual : ∃ files,
    (unusual.save emptySurroundings.device emptySurroundings.directory
      (projectPath emptySurroundings (some ⟨"", ["a", "b.json"]⟩))).run.run
        emptySurroundings.files = (.ok (), files) ∧
    ofProject { emptySurroundings with files } (some ⟨"", ["a", "b.json"]⟩) = .ok unusual := by
  have hok : (match (unusual.save emptySurroundings.device emptySurroundings.directory
      (projectPath emptySurroundings (some ⟨"", ["a", "b.json"]⟩))).run.run
        emptySurroundings.files with
      | (.ok (), _) => true
      | (.error _, _) => false) = true := by
    decide +kernel
  split at hok
  · next files hsaved => exact ⟨files, hsaved, ofProject_save hsaved⟩
  · cases hok

end Config

end ClientPlan
