import ClientPlan.Api.Field
import ClientPlan.Config.Basic

/-!
# Configurations as fields

A configuration is written as a list of named values, and `Config.ofEntries` reads one back.  A field
that is left out has its default.  Truth values may be given by words and by the numbers zero and
one; texts and lists may not be given by anything else.  Unknown fields are refused.
-/

set_option autoImplicit false

namespace ClientPlan

namespace Checked

variable {α β : Type}

/-- A checked value given to what still needs one: the issues of both are reported. -/
def apply (f : Checked (α → β)) (a : Checked α) : Checked β := (both f a).map fun (g, x) => g x

end Checked

namespace Config

/-! ## Reading -/

/-- The words for false. -/
def falseWords : List String := ["0", "off", "f", "false", "n", "no"]

/-- The words for true. -/
def trueWords : List String := ["1", "on", "t", "true", "y", "yes"]

/-- The truth value that a word stands for, ASCII letters of either case. -/
def wordValue? (s : String) : Option Bool :=
  let word := String.ofList (s.toList.map Char.toLower)
  if falseWords.contains word then some false
  else if trueWords.contains word then some true
  else none

/-- The truth value that a number stands for. -/
def numberValue? (n : Int) : Option Bool :=
  if n == 0 then some false else if n == 1 then some true else none

/-- The truth value that a value at `location` stands for. -/
def checkBool (location : List Step) (v : Value) : Checked Bool :=
  let read (b : Option Bool) : Checked Bool :=
    match b with
    | some b => .ok b
    | none => .error [⟨location, .unreadableBoolean⟩]
  let refuse : Checked Bool := .error [⟨location, .notBoolean⟩]
  let readNumber (n : Int) : Checked Bool :=
    if Number.fitsWord n then read (numberValue? n) else refuse
  match v with
  | .bool b => .ok b
  | .str s => read (wordValue? s)
  | .bytes octets => read ((Text.decode? octets).bind wordValue?)
  | .int n => readNumber n
  | .float x =>
    match Number.toInt? x with
    | some n => readNumber n
    | none => refuse
  | _ => refuse

/-- The text, or nothing, that a value at `location` stands for. -/
def checkOptionalText (location : List Step) : Value → Checked (Option String)
  | .null => .ok none
  | v => (checkText location v).map some

/-- The texts that the items of a list at `location` stand for, the first having the index `n`. -/
def checkTexts (location : List Step) (n : Nat) : List Value → Checked (List String)
  | [] => .ok []
  | v :: r =>
    ((checkText (location ++ [.index n]) v).both (checkTexts location (n + 1) r)).map
      fun (s, l) => s :: l

/-- The list of texts that a value at `location` stands for. -/
def checkTextList (location : List Step) : Value → Checked (List String)
  | .list items | .set items => checkTexts location 0 items
  | _ => .error [⟨location, .notList⟩]

/-- The field `name`, or its default if it is left out. -/
def readField {α : Type} (entries : Entries) (check : List Step → Value → Checked α) (name : String)
    (fallback : α) : Checked α :=
  match lookupText name entries with
  | some v => check [.field name] v
  | none => .ok fallback

/-- The names of the fields in order. -/
def fieldNames : List String := [
  "operation_use_tags", "operation_default_module", "operation_interfaces", "interface_suffix",
  "base_location", "schema_location", "operation_location", "schema_use", "default_client",
  "base_module", "ignore", "processor"]

/-- The options that fields stand for. -/
def readOptions (entries : Entries) : Checked Options :=
  let o : Options := {}
  let text (name : String) (fallback : String) := readField entries checkText name fallback
  let bool (name : String) (fallback : Bool) := readField entries checkBool name fallback
  let optional (name : String) := readField entries checkOptionalText name none
  let start : Checked _ := .ok Options.mk
  start
    |>.apply (bool "operation_use_tags" o.useTags)
    |>.apply (text "operation_default_module" o.defaultModule)
    |>.apply (bool "operation_interfaces" o.interfaces)
    |>.apply (text "interface_suffix" o.interfaceSuffix)
    |>.apply (text "base_location" o.baseLocation)
    |>.apply (text "schema_location" o.schemaLocation)
    |>.apply (text "operation_location" o.operationLocation)
    |>.apply (optional "schema_use")
    |>.apply (optional "default_client")
    |>.apply (text "base_module" o.baseModule)
    |>.apply (readField entries checkTextList "ignore" o.ignore)
    |>.apply (optional "processor")

/-- The issues of fields that do not exist. -/
def unknownFields (entries : Entries) : List Issue :=
  entries.filterMap fun (k, _) =>
    match k with
    | .str name => if fieldNames.contains name then none else some ⟨[.field name], .unknownField⟩
    | k => some ⟨[keyStep k], .unknownField⟩

/-- What is wrong with interface files that have a blank suffix. -/
def blankSuffix : Issue :=
  ⟨[], .contradiction <| "Value error, operation_interfaces requires a non-empty interface_suffix; " ++
    "interface and concrete files cannot share a module"⟩

/-- The configuration that fields stand for.  Whether the options fit together is asked only if there
is no other issue. -/
def ofEntries (entries : Entries) : Checked Config :=
  let unknown : Checked Unit :=
    match unknownFields entries with
    | [] => .ok ()
    | issues => .error issues
  match (readOptions entries).both unknown with
  | .error issues => .error issues
  | .ok (options, ()) =>
    match ofOptions? options with
    | some c => .ok c
    | none => .error [blankSuffix]

/-! ## Writing -/

/-- A text that may be missing as a value. -/
def optionalValue (s : Option String) : Value := (s.map Value.str).getD .null

end Config

/-- The fields of options, in order. -/
def Options.fields (o : Options) : List (String × Value) := [
  ("operation_use_tags", .bool o.useTags),
  ("operation_default_module", .str o.defaultModule),
  ("operation_interfaces", .bool o.interfaces),
  ("interface_suffix", .str o.interfaceSuffix),
  ("base_location", .str o.baseLocation),
  ("schema_location", .str o.schemaLocation),
  ("operation_location", .str o.operationLocation),
  ("schema_use", Config.optionalValue o.schemaUse),
  ("default_client", Config.optionalValue o.defaultClient),
  ("base_module", .str o.baseModule),
  ("ignore", .list (o.ignore.map Value.str)),
  ("processor", Config.optionalValue o.policy)]

namespace Options

/-- Which fields differ from their defaults, in the order of the fields. -/
def changed (o : Options) : List Bool :=
  let d : Options := {}
  [o.useTags != d.useTags, o.defaultModule != d.defaultModule, o.interfaces != d.interfaces,
    o.interfaceSuffix != d.interfaceSuffix, o.baseLocation != d.baseLocation,
    o.schemaLocation != d.schemaLocation, o.operationLocation != d.operationLocation,
    o.schemaUse != d.schemaUse, o.defaultClient != d.defaultClient, o.baseModule != d.baseModule,
    o.ignore != d.ignore, o.policy != d.policy]

/-- The fields that differ from their defaults. -/
def changedFields (o : Options) : List (String × Value) :=
  (o.fields.zip o.changed).filterMap fun (field, changed) => if changed then some field else none

end Options

end ClientPlan
