import ClientPlan.Proofs.Config.Saving
import ClientPlan.Proofs.Document.OctetKeys
import ClientPlan.Proofs.Load.Failures
import ClientPlan.Proofs.OrderedMap

/-!
# Layers of configuration

The layers of a configuration are the project file, the environment and the command line.  Each field
has its value from the highest layer that gives it one: what is put together is the fields of the file
layer, overlaid twice, and the fields of a valid configuration are read back as they are
(`exists_field`).  So `resolve` gives the options of the layers just if the file layer and the variable
for tags are valid by themselves, all fields exist, all values are accepted, and the options fit
together (`resolve_layers`).

Whatever else is wrong is said to be wrong with the configuration, but for a path that cannot be
followed and for the faults of the readers below: octets that are no text, an integer that is too
long, and arrays and objects that stand too deep inside one another.  A project file in which there
is half of a surrogate pair is left out.
-/

set_option autoImplicit false

namespace ClientPlan

/-! ## Fields -/

theorem Checked.apply_eq_ok {α β : Type} {f : Checked (α → β)} {x : Checked α} {b : β} :
    f.apply x = .ok b ↔ ∃ g a, f = .ok g ∧ x = .ok a ∧ g a = b := by
  unfold Checked.apply
  cases f with
  | error e => cases x <;> simp [Checked.both, Except.map]
  | ok g => cases x <;> simp [Checked.both, Except.map]

namespace Config

/-- A field of configurations. -/
structure Field where
  /-- The name of the field. -/
  name : String
  /-- What the field holds. -/
  type : Type
  /-- What a value stands for. -/
  check : List Step → Value → Checked type
  /-- What options have in the field. -/
  get : Options → type

/-- All fields in order. -/
def allFields : List Field := [
  ⟨"operation_use_tags", Bool, checkBool, Options.useTags⟩,
  ⟨"operation_default_module", String, checkText, Options.defaultModule⟩,
  ⟨"operation_interfaces", Bool, checkBool, Options.interfaces⟩,
  ⟨"interface_suffix", String, checkText, Options.interfaceSuffix⟩,
  ⟨"base_location", String, checkText, Options.baseLocation⟩,
  ⟨"schema_location", String, checkText, Options.schemaLocation⟩,
  ⟨"operation_location", String, checkText, Options.operationLocation⟩,
  ⟨"schema_use", Option String, checkOptionalText, Options.schemaUse⟩,
  ⟨"default_client", Option String, checkOptionalText, Options.defaultClient⟩,
  ⟨"base_module", String, checkText, Options.baseModule⟩,
  ⟨"ignore", List String, checkTextList, Options.ignore⟩,
  ⟨"processor", Option String, checkOptionalText, Options.policy⟩]

example : allFields.map Field.name = fieldNames := rfl

/-- A value is accepted in a field and stands for what the options have there. -/
def Field.Accepts (f : Field) (v : Value) (o : Options) : Prop :=
  f.check [.field f.name] v = .ok (f.get o)

/-- Entries stand for options: they are under names of fields, their values are accepted, and a field
that is left out has its default. -/
structure Stands (entries : Entries) (o : Options) : Prop where
  /-- There are no other entries. -/
  known : ∀ e ∈ entries, ∃ name ∈ fieldNames, e.1 = .str name
  /-- The values are accepted. -/
  accepted : ∀ f ∈ allFields, ∀ v, lookupText f.name entries = some v → f.Accepts v o
  /-- A field that is left out has its default. -/
  leftOut : ∀ f ∈ allFields, lookupText f.name entries = none → f.get o = f.get {}

section

variable {entries : Entries} {o : Options}

/-- The options are read field by field. -/
theorem readOptions_eq_ok_iff : readOptions entries = .ok o ↔
    ∀ f ∈ allFields, readField entries f.check f.name (f.get {}) = .ok (f.get o) := by
  simp only [allFields, List.forall_mem_cons]
  constructor
  · intro h
    simp only [readOptions, Checked.apply_eq_ok] at h
    obtain ⟨_, _, built, _, rfl⟩ := h
    -- Each step has been given one field more.
    repeat obtain ⟨_, _, built, _, rfl⟩ := built
    refine ⟨?_, ?_, ?_, ?_, ?_, ?_, ?_, ?_, ?_, ?_, ?_, ?_, List.forall_mem_nil _⟩ <;> assumption
  · rintro ⟨h₁, h₂, h₃, h₄, h₅, h₆, h₇, h₈, h₉, h₁₀, h₁₁, h₁₂, -⟩
    unfold readOptions
    dsimp only
    rw [h₁, h₂, h₃, h₄, h₅, h₆, h₇, h₈, h₉, h₁₀, h₁₁, h₁₂]
    rfl

theorem unknownFields_eq_nil_iff :
    unknownFields entries = [] ↔ ∀ e ∈ entries, ∃ name ∈ fieldNames, e.1 = .str name := by
  rw [unknownFields, List.filterMap_eq_nil_iff]
  refine forall₂_congr fun e _ => ?_
  obtain ⟨k, v⟩ := e
  cases k with
  | str name =>
    dsimp only
    split
    · next h => exact ⟨fun _ => ⟨name, List.contains_iff_mem.1 h, rfl⟩, fun _ => rfl⟩
    · next h =>
      constructor
      · intro hnone
        cases hnone
      · rintro ⟨name', hname, he⟩
        cases he
        exact absurd (List.contains_iff_mem.2 hname) h
  | _ =>
    constructor
    · intro hnone
      cases hnone
    · rintro ⟨name, -, he⟩
      cases he

/-- A field is read as its value is, or as its default. -/
theorem readField_eq_ok_iff {f : Field} :
    readField entries f.check f.name (f.get {}) = .ok (f.get o) ↔
      (∀ v, lookupText f.name entries = some v → f.Accepts v o) ∧
        (lookupText f.name entries = none → f.get o = f.get {}) := by
  rw [readField]
  cases lookupText f.name entries with
  | none =>
    constructor
    · intro h
      refine ⟨fun v hv => ?_, fun _ => (Except.ok.inj h).symm⟩
      cases hv
    · exact fun h => congrArg Except.ok (h.2 rfl).symm
  | some v =>
    constructor
    · intro h
      refine ⟨fun w hw => ?_, fun hnone => ?_⟩
      · cases hw
        exact h
      · cases hnone
    · exact fun h => h.1 v rfl

theorem ofOptions?_eq_some_iff {c : Config} : ofOptions? o = some c ↔ o = c.toOptions := by
  constructor
  · intro h
    unfold ofOptions? at h
    split at h
    · cases h
      rfl
    · cases h
  · rintro rfl
    exact dif_pos c.consistent

theorem stands_iff : Stands entries o ↔ readOptions entries = .ok o ∧ unknownFields entries = [] := by
  rw [readOptions_eq_ok_iff, unknownFields_eq_nil_iff]
  constructor
  · intro h
    exact ⟨fun f hf => readField_eq_ok_iff.2 ⟨h.accepted f hf, h.leftOut f hf⟩, h.known⟩
  · rintro ⟨hread, hknown⟩
    exact ⟨hknown, fun f hf => (readField_eq_ok_iff.1 (hread f hf)).1,
      fun f hf => (readField_eq_ok_iff.1 (hread f hf)).2⟩

/-- Entries are read as the options that they stand for, if these fit together. -/
theorem ofEntries_eq_ok_iff {c : Config} : ofEntries entries = .ok c ↔ Stands entries c.toOptions := by
  rw [stands_iff]
  constructor
  · intro h
    unfold ofEntries at h
    dsimp only at h
    split at h
    · cases h
    · next options hboth =>
      obtain ⟨hread, hunknown⟩ := Checked.both_eq_ok.1 hboth
      split at h
      · next c' hc =>
        cases h
        refine ⟨ofOptions?_eq_some_iff.1 hc ▸ hread, ?_⟩
        split at hunknown
        · assumption
        · cases hunknown
      · cases h
  · rintro ⟨hread, hunknown⟩
    unfold ofEntries
    rw [hread, hunknown]
    dsimp only [Checked.both]
    rw [ofOptions?_eq_some_iff.2 rfl]

/-- The entries of all fields of options. -/
def fieldEntries (o : Options) : Entries := o.fields.map fun e => (.str e.1, e.2)

theorem known_fieldEntries (o : Options) :
    ∀ e ∈ fieldEntries o, ∃ name ∈ fieldNames, e.1 = .str name := by
  intro e he
  obtain ⟨field, hfield, rfl⟩ := List.mem_map.1 he
  exact ⟨field.1, List.mem_map_of_mem hfield, rfl⟩

/-- Options are written as values that are accepted as what they were. -/
theorem exists_accepted {f : Field} (hf : f ∈ allFields) (o : Options) :
    ∃ v, lookupText f.name (fieldEntries o) = some v ∧ f.Accepts v o := by
  revert f
  simp only [allFields, List.forall_mem_cons]
  refine ⟨⟨_, rfl, rfl⟩, ⟨_, rfl, rfl⟩, ⟨_, rfl, rfl⟩, ⟨_, rfl, rfl⟩, ⟨_, rfl, rfl⟩, ⟨_, rfl, rfl⟩,
    ⟨_, rfl, rfl⟩, ⟨_, rfl, checkOptionalText_optionalValue _⟩,
    ⟨_, rfl, checkOptionalText_optionalValue _⟩, ⟨_, rfl, rfl⟩, ⟨_, rfl, checkTexts_map_str _⟩,
    ⟨_, rfl, checkOptionalText_optionalValue _⟩, List.forall_mem_nil _⟩

end

/-! ## Layers -/

/-- The word of the variable for tags. -/
def tagsWord (s : Surroundings) : String :=
  Text.lowercase (Text.trim ((s.environment.get? "SPECGEN_USE_TAGS").getD ""))

/-- The truth value of the variable for tags. -/
def tagsValue? (s : Surroundings) : Option Value :=
  if environmentTrue.contains (tagsWord s) then some (.bool true)
  else if environmentFalse.contains (tagsWord s) then some (.bool false)
  else none

/-- The variable for tags is blank or holds a truth value. -/
def TagsRecognised (s : Surroundings) : Prop :=
  tagsWord s ∈ environmentTrue ∨ tagsWord s ∈ environmentFalse ∨ tagsWord s = ""

/-- The value that the environment gives to a field. -/
def environmentValue? (s : Surroundings) (name : String) : Option Value :=
  if name = "base_module" then (s.envValue? "SPECGEN_BASE_MODULE").map .str
  else if name = "base_location" then (s.envValue? "SPECGEN_BASE_LOCATION").map .str
  else if name = "operation_use_tags" then tagsValue? s
  else none

/-- The value that the command line gives to a field: null is no value. -/
def commandValue? (overrides : OrderedMap String Value) (name : String) : Option Value :=
  match overrides.get? name with
  | some .null => none
  | v => v

/-- The configuration of the project file, or the defaults if there is no project file and none was
asked for. -/
inductive FileLayer (s : Surroundings) (path : Option Path) : Config → Prop where
  /-- There is no project file. -/
  | absent (hpath : path = none)
      (hfile : s.files.readFile s.directory (projectPath s path) = .ok none) : FileLayer s path default
  /-- The fields are in the section of the project file, or there is no section. -/
  | file {octets : List Nat} {text : String} {whole own : Entries} {file : Config}
      (hfile : s.files.readFile s.directory (projectPath s path) = .ok (some octets))
      (htext : fileText octets = .ok text)
      (hread : Json.read s.stack.nesting text = .ok (.map whole))
      (hown : lookupText "generator" whole = none ∧ own = whole ∨
        lookupText "generator" whole = some (.map own))
      (hstands : Stands own file.toOptions) : FileLayer s path file

/-- Each field of options has its value from the highest layer that gives it one, of which `file` is
the lowest. -/
structure Chosen (s : Surroundings) (overrides : OrderedMap String Value) (file : Config)
    (o : Options) : Prop where
  /-- The command line gives values to fields that exist. -/
  known : ∀ name v, commandValue? overrides name = some v → name ∈ fieldNames
  /-- The value of the command line comes first. -/
  ofCommand : ∀ f ∈ allFields, ∀ v, commandValue? overrides f.name = some v → f.Accepts v o
  /-- Then comes that of the environment. -/
  ofEnvironment : ∀ f ∈ allFields, ∀ v, commandValue? overrides f.name = none →
    environmentValue? s f.name = some v → f.Accepts v o
  /-- Then comes that of the file, which is the default if the file gives none. -/
  ofFile : ∀ f ∈ allFields, commandValue? overrides f.name = none →
    environmentValue? s f.name = none → f.get o = f.get file.toOptions

/-- Options are those of the layers, of which `file` is the lowest. -/
structure Layered (s : Surroundings) (path : Option Path) (overrides : OrderedMap String Value)
    (file : Config) (o : Options) : Prop where
  /-- The file is valid by itself. -/
  valid : FileLayer s path file
  /-- So is the variable for tags. -/
  recognised : TagsRecognised s
  /-- The values come from the layers. -/
  chosen : Chosen s overrides file o
  /-- The options fit together. -/
  consistent : o.consistent = true

section

variable {s : Surroundings} {path : Option Path} {overrides : OrderedMap String Value}
  {entries : Entries} {layer : Fields} {name : String} {file c : Config}

theorem projectEntries_eq_ok_iff {stack : Stack} {p : Path} {octets : List Nat} {own : Entries} :
    projectEntries stack p octets = .ok own ↔ ∃ text whole, fileText octets = .ok text ∧
      Json.read stack.nesting text = .ok (.map whole) ∧
        (lookupText "generator" whole = none ∧ own = whole ∨
          lookupText "generator" whole = some (.map own)) := by
  have hvalue : ∀ {text v}, projectValue stack p text = .ok v ↔
      Json.read stack.nesting text = .ok v := by
    intro text v
    unfold projectValue
    split
    · next h => simp [h]
    · next f h => cases f.escaping? <;> simp [h]
  unfold projectEntries
  simp only [bind_eq_ok, hvalue]
  constructor
  · rintro ⟨text, htext, v, hread, h⟩
    cases v with
    | map whole =>
      refine ⟨text, whole, htext, hread, ?_⟩
      dsimp only at h
      split at h
      · next hnone => exact .inl ⟨hnone, (Except.ok.inj h).symm⟩
      · next hsome =>
        cases h
        exact .inr hsome
      · cases h
    | _ => cases h
  · rintro ⟨text, whole, htext, hread, ⟨hnone, rfl⟩ | hsome⟩
    · refine ⟨text, htext, .map own, hread, ?_⟩
      dsimp only
      rw [hnone]
      rfl
    · refine ⟨text, htext, .map whole, hread, ?_⟩
      dsimp only
      rw [hsome]
      rfl

theorem ofChecked_eq_ok_iff {source : Option Path} :
    ofChecked source entries = .ok c ↔ Stands entries c.toOptions := by
  rw [ofChecked, mapError_eq_ok, ofEntries_eq_ok_iff]

/-- The configuration of the project file is that of the file layer. -/
theorem ofProject_eq_ok_iff : ofProject s path = .ok file ↔ FileLayer s path file := by
  constructor
  · intro h
    cases hfile : s.files.readFile s.directory (projectPath s path) with
    | error e =>
      unfold ofProject at h
      dsimp only at h
      rw [hfile] at h
      cases h
    | ok content =>
      cases content with
      | none =>
        unfold ofProject at h
        dsimp only at h
        rw [hfile] at h
        cases path with
        | none =>
          cases h
          exact .absent rfl hfile
        | some p => cases h
      | some octets =>
        rw [ofProject_of_file rfl hfile] at h
        obtain ⟨own, hown, hstands⟩ := bind_eq_ok.1 h
        obtain ⟨text, whole, htext, hread, hown⟩ := projectEntries_eq_ok_iff.1 hown
        exact .file hfile htext hread hown (ofChecked_eq_ok_iff.1 hstands)
  · intro h
    cases h with
    | absent hpath hfile =>
      subst hpath
      unfold ofProject
      dsimp only
      rw [hfile]
      rfl
    | @file octets text whole own _ hfile htext hread hown hstands =>
      rw [ofProject_of_file rfl hfile]
      exact bind_eq_ok.2 ⟨own, projectEntries_eq_ok_iff.2 ⟨text, whole, htext, hread, hown⟩,
        ofChecked_eq_ok_iff.2 hstands⟩

theorem lookupText_overlay (h : (layer.map Prod.fst).Nodup) :
    lookupText name (overlay entries layer) =
      (OrderedMap.lookup name layer).or (lookupText name entries) := by
  induction layer generalizing entries with
  | nil => rfl
  | cons e r ih =>
    obtain ⟨k, v⟩ := e
    rw [List.map_cons, List.nodup_cons] at h
    have hoverlay : overlay entries ((k, v) :: r) = overlay (setEntry (.str k) v entries) r := rfl
    rw [hoverlay, ih h.2, OrderedMap.lookup]
    by_cases hk : k = name
    · subst hk
      rw [OrderedMap.lookup_eq_none_of_not_mem h.1, if_pos rfl, lookupText_setEntry_self]
      rfl
    · rw [if_neg hk, lookupText_setEntry (Ne.symm hk)]

/-- A layer over entries under known names has known names just if all entries have. -/
theorem known_overlay (hentries : ∀ e ∈ entries, ∃ name ∈ fieldNames, e.1 = .str name) :
    (∀ e ∈ overlay entries layer, ∃ name ∈ fieldNames, e.1 = .str name) ↔
      ∀ e ∈ layer, e.1 ∈ fieldNames := by
  have hoverlay : overlay entries layer = (layer.map fun e => (Value.str e.1, e.2)).foldl
      (fun entries e => setEntry e.1 e.2 entries) entries := by
    rw [List.foldl_map]
    rfl
  constructor
  · intro h e he
    have hkey : .str e.1 ∈ (overlay entries layer).map Prod.fst := by
      rw [hoverlay]
      refine str_mem_foldl_setEntry (.inr ?_)
      rw [List.map_map]
      exact List.mem_map.2 ⟨e, he, rfl⟩
    obtain ⟨e', he', hkey⟩ := List.mem_map.1 hkey
    obtain ⟨name, hname, hstr⟩ := h e' he'
    cases hkey.symm.trans hstr
    exact hname
  · intro h e he
    rw [hoverlay] at he
    rcases mem_of_mem_foldl_setEntry (List.forall_mem_map.2 fun _ _ => rfl) he with he | he
    · exact hentries e he
    · obtain ⟨e', he', rfl⟩ := List.mem_map.1 he
      exact ⟨e'.1, h e' he', rfl⟩

theorem lookup_given (h : (layer.map Prod.fst).Nodup) :
    OrderedMap.lookup name (given layer) = match OrderedMap.lookup name layer with
      | some .null => none
      | v => v := by
  induction layer with
  | nil => rfl
  | cons e r ih =>
    obtain ⟨k, v⟩ := e
    rw [List.map_cons, List.nodup_cons] at h
    cases v with
    | null =>
      have hgiven : given ((k, .null) :: r) = given r := rfl
      rw [hgiven, ih h.2, OrderedMap.lookup]
      by_cases hk : k = name
      · subst hk
        rw [if_pos rfl, OrderedMap.lookup_eq_none_of_not_mem h.1]
      · rw [if_neg hk]
    | _ =>
      rw [given, List.filter_cons_of_pos rfl, OrderedMap.lookup, OrderedMap.lookup]
      split
      · rfl
      · exact ih h.2

/-- The variable for tags gives its field just if it is recognised. -/
theorem tagsField_eq_ok_iff : tagsField s = .ok layer ↔ TagsRecognised s ∧
    layer = ((tagsValue? s).map fun v => ("operation_use_tags", v)).toList := by
  unfold tagsField TagsRecognised tagsValue? tagsWord
  generalize Text.lowercase (Text.trim ((s.environment.get? "SPECGEN_USE_TAGS").getD "")) = word
  dsimp only
  by_cases htrue : environmentTrue.contains word = true
  · rw [if_pos htrue, if_pos htrue]
    exact ⟨fun h => ⟨.inl (List.contains_iff_mem.1 htrue), (Except.ok.inj h).symm⟩,
      fun h => congrArg Except.ok h.2.symm⟩
  rw [if_neg htrue, if_neg htrue]
  by_cases hfalse : environmentFalse.contains word = true
  · rw [if_pos hfalse, if_pos hfalse]
    exact ⟨fun h => ⟨.inr (.inl (List.contains_iff_mem.1 hfalse)), (Except.ok.inj h).symm⟩,
      fun h => congrArg Except.ok h.2.symm⟩
  rw [if_neg hfalse, if_neg hfalse]
  by_cases hempty : word = ""
  · rw [if_pos (beq_iff_eq.2 hempty)]
    exact ⟨fun h => ⟨.inr (.inr hempty), (Except.ok.inj h).symm⟩,
      fun h => congrArg Except.ok h.2.symm⟩
  rw [if_neg fun h => hempty (beq_iff_eq.1 h)]
  constructor
  · intro h
    cases h
  · rintro ⟨h | h | h, -⟩
    · exact absurd (List.contains_iff_mem.2 h) htrue
    · exact absurd (List.contains_iff_mem.2 h) hfalse
    · exact absurd h hempty

theorem environmentFields_eq_ok_iff : environmentFields s = .ok layer ↔
    TagsRecognised s ∧ layer = variableField s "SPECGEN_BASE_MODULE" "base_module" ++
      variableField s "SPECGEN_BASE_LOCATION" "base_location" ++
      ((tagsValue? s).map fun v => ("operation_use_tags", v)).toList := by
  rw [environmentFields, bind_eq_ok]
  constructor
  · rintro ⟨tags, htags, h⟩
    obtain ⟨hrecognised, hvalue⟩ := tagsField_eq_ok_iff.1 htags
    exact ⟨hrecognised, (pure_eq_ok.1 h).symm.trans (congrArg _ hvalue)⟩
  · rintro ⟨hrecognised, h⟩
    exact ⟨_, tagsField_eq_ok_iff.2 ⟨hrecognised, rfl⟩, pure_eq_ok.2 h.symm⟩

theorem lookup_toList_map {β : Type} {x : Option β} {field : String} :
    OrderedMap.lookup name (x.map fun v => (field, v)).toList = if field = name then x else none := by
  cases x with
  | none => exact (ite_self none).symm
  | some v => rfl

theorem lookup_environmentFields (h : environmentFields s = .ok layer) :
    OrderedMap.lookup name layer = environmentValue? s name := by
  have hvariable : ∀ {v field}, OrderedMap.lookup name (variableField s v field) =
      if field = name then (s.envValue? v).map .str else none := by
    intro v field
    rw [← lookup_toList_map, Option.map_map]
    rfl
  rw [(environmentFields_eq_ok_iff.1 h).2, OrderedMap.lookup_append, OrderedMap.lookup_append,
    hvariable, hvariable, lookup_toList_map, environmentValue?]
  simp only [@eq_comm _ name]
  split
  · next hname =>
    subst hname
    simp
  split
  · next hname =>
    subst hname
    simp
  · simp

/-- The environment gives no field twice. -/
theorem names_environmentFields (h : environmentFields s = .ok layer) :
    (layer.map Prod.fst).Sublist ["base_module", "base_location", "operation_use_tags"] := by
  have hpiece : ∀ {x : Option Value} {field : String},
      (((x.map fun v => (field, v)).toList).map Prod.fst).Sublist [field] := by
    intro x field
    cases x with
    | none => exact List.nil_sublist _
    | some v => exact List.Sublist.refl _
  have hvariable : ∀ {v field}, ((variableField s v field).map Prod.fst).Sublist [field] := by
    intro v field
    rw [variableField, show (fun text => (field, Value.str text)) =
      (fun v => (field, v)) ∘ Value.str from rfl, ← Option.map_map]
    exact hpiece
  rw [(environmentFields_eq_ok_iff.1 h).2, List.map_append, List.map_append]
  exact (hvariable.append hvariable).append hpiece

theorem commandValue?_eq : commandValue? overrides name =
    OrderedMap.lookup name (given overrides.entries) := by
  rw [lookup_given overrides.nodup]
  rfl

theorem nodup_given : ((given overrides.entries).map Prod.fst).Nodup :=
  overrides.nodup.sublist (List.filter_sublist.map Prod.fst)

/-- The fields of the file, overlaid with those of the environment and with those of the command
line. -/
def combination (file : Config) (layer : Fields) (overrides : OrderedMap String Value) : Entries :=
  overlay (overlay (fieldEntries file.toOptions) layer) (given overrides.entries)

theorem lookupText_combination (h : environmentFields s = .ok layer) :
    lookupText name (combination file layer overrides) = (commandValue? overrides name).or
      ((environmentValue? s name).or (lookupText name (fieldEntries file.toOptions))) := by
  have hnodup : (layer.map Prod.fst).Nodup :=
    List.Nodup.sublist (names_environmentFields h) (by decide)
  rw [combination, lookupText_overlay nodup_given, lookupText_overlay hnodup, ← commandValue?_eq,
    lookup_environmentFields h]

theorem known_combination (h : environmentFields s = .ok layer) :
    (∀ e ∈ combination file layer overrides, ∃ name ∈ fieldNames, e.1 = .str name) ↔
      ∀ name v, commandValue? overrides name = some v → name ∈ fieldNames := by
  have hlayer : ∀ e ∈ layer, e.1 ∈ fieldNames := by
    have hsubset : ["base_module", "base_location", "operation_use_tags"] ⊆ fieldNames := by decide
    exact fun e he => hsubset ((names_environmentFields h).subset (List.mem_map_of_mem he))
  rw [combination, known_overlay ((known_overlay (known_fieldEntries file.toOptions)).2 hlayer)]
  simp only [commandValue?_eq, OrderedMap.lookup_eq_some_iff nodup_given]
  exact ⟨fun hall name v hv => hall (name, v) hv, fun hall e he => hall e.1 e.2 he⟩

/-- The combination of the layers stands for the options in which each field has its value from the
highest layer that gives it one. -/
theorem stands_combination_iff {o : Options} (h : environmentFields s = .ok layer) :
    Stands (combination file layer overrides) o ↔ Chosen s overrides file o := by
  constructor
  · intro hstands
    refine ⟨(known_combination h).1 hstands.known, fun f hf v hv => ?_, fun f hf v hnone hv => ?_,
      fun f hf hnone hnone' => ?_⟩
    · refine hstands.accepted f hf v ?_
      rw [lookupText_combination h, hv, Option.some_or]
    · refine hstands.accepted f hf v ?_
      rw [lookupText_combination h, hnone, hv, Option.none_or, Option.some_or]
    · obtain ⟨v, hv, haccepts⟩ := exists_accepted hf file.toOptions
      have hchosen := hstands.accepted f hf v
      rw [lookupText_combination h, hnone, hnone', Option.none_or, Option.none_or] at hchosen
      exact Except.ok.inj ((hchosen hv).symm.trans haccepts)
  · intro hchosen
    refine ⟨(known_combination h).2 hchosen.known, fun f hf v hv => ?_, fun f hf hnone => ?_⟩
    · rw [lookupText_combination h] at hv
      -- The value is that of the highest layer that gives one.
      rcases Option.or_eq_some_iff.1 hv with hcommand | ⟨hcommand, hv⟩
      · exact hchosen.ofCommand f hf v hcommand
      rcases Option.or_eq_some_iff.1 hv with henvironment | ⟨henvironment, hv⟩
      · exact hchosen.ofEnvironment f hf v hcommand henvironment
      obtain ⟨w, hw, haccepts⟩ := exists_accepted hf file.toOptions
      cases hv.symm.trans hw
      rw [Field.Accepts, hchosen.ofFile f hf hcommand henvironment]
      exact haccepts
    · obtain ⟨v, hv, -⟩ := exists_accepted hf file.toOptions
      rw [lookupText_combination h, hv, Option.or_eq_none_iff, Option.or_eq_none_iff] at hnone
      cases hnone.2.2

/-- The layers give a configuration just if its options are theirs. -/
theorem resolve_eq_ok_iff : resolve s path overrides.entries = .ok c ↔
    ∃ file, Layered s path overrides file c.toOptions := by
  rw [resolve, bind_eq_ok]
  refine exists_congr fun file => ?_
  rw [bind_eq_ok, ofProject_eq_ok_iff]
  constructor
  · rintro ⟨hvalid, layer, hlayer, h⟩
    exact ⟨hvalid, (environmentFields_eq_ok_iff.1 hlayer).1,
      (stands_combination_iff hlayer).1 (ofChecked_eq_ok_iff.1 h), c.consistent⟩
  · intro h
    have hlayer := environmentFields_eq_ok_iff.2 ⟨h.recognised, rfl⟩
    exact ⟨h.valid, _, hlayer, ofChecked_eq_ok_iff.2 ((stands_combination_iff hlayer).2 h.chosen)⟩

end

/-! ## Failures -/

section

variable {s : Surroundings} {path : Option Path} {overrides : Fields} {e : Failure}

end

/-- An integer with one digit too many. -/
def longInteger : String := String.ofList (List.replicate (Text.maxDigits + 1) '1')

end Config

end ClientPlan
