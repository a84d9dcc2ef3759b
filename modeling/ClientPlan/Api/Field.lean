import ClientPlan.Document.Shown
import ClientPlan.Failure
import ClientPlan.Text.Utf8

/-!
# Checked fields

The records of a description have fields of fixed types, and all issues of a record are reported
together.  A field of text takes octets that are UTF-8 as the text they encode; a mapping whose keys
are texts takes such octets as keys.

`membersOf` and `entriesOf` are how a part of a document is run through where the description wants
a list or a mapping: a value that counts as false has nothing to run through.
-/

set_option autoImplicit false

namespace ClientPlan

/-- The outcome of a check: a value, or all that is wrong. -/
abbrev Checked (α : Type) := Except (List Issue) α

namespace Checked

variable {α β : Type}

/-- What is wrong. -/
def issues : Checked α → List Issue
  | .ok _ => []
  | .error l => l

/-- Two checks together: the issues of both are reported. -/
def both (a : Checked α) (b : Checked β) : Checked (α × β) :=
  match a, b with
  | .ok x, .ok y => .ok (x, y)
  | a, b => .error (a.issues ++ b.issues)

/-- A check as a step of reading. -/
def required (a : Checked α) : Except Failure α := a.mapError .invalid

end Checked

/-! ## Fields of texts -/

/-- The text that a value at `location` stands for. -/
def checkText (location : List Step) : Value → Checked String
  | .str s => .ok s
  | .bytes octets =>
    match Text.decode? octets with
    | some s => .ok s
    | none => .error [⟨location, .notTextOctets⟩]
  | _ => .error [⟨location, .notText⟩]

/-- A field that holds a text. -/
def textField (name : String) (v : Value) : Checked String := checkText [.field name] v

/-- A field that holds a text or nothing. -/
def optionalTextField (name : String) : Option Value → Checked (Option String)
  | none | some .null => .ok none
  | some v => (textField name v).map some

/-! ## Fields of mappings -/

/-- A key as a step of a location. -/
def keyStep : Value → Step
  | .str s => .field s
  | .int n => if Number.fitsWord n then .index n else .field (integerText n)
  | .bool b => .index b.toNat
  | v => .field v.quoted

/-- The entries of a mapping with text keys. -/
def checkEntries (name : String) : Entries → Checked Entries
  | [] => .ok []
  | (k, v) :: r =>
    let key := checkText [.field name, keyStep k, .field "[key]"] k
    (key.both (checkEntries name r)).map fun (s, entries) => (.str s, v) :: entries

/-- Whether a value is a text. -/
def Value.isStr : Value → Bool
  | .str _ => true
  | _ => false

/-- A field that holds a mapping with text keys, or nothing. -/
def mappingField (name : String) : Value → Checked Value
  | .map entries =>
    if entries.all fun e => e.1.isStr then .ok (.map entries)
    else (checkEntries name entries).map Value.ofEntries
  | v => .ok v

/-- A mapping whose keys are texts is taken as it is. -/
theorem mappingField_eq_ok {name : String} {entries : Entries}
    (h : ∀ e ∈ entries, e.1.isStr = true) : mappingField name (.map entries) = .ok (.map entries) := by
  rw [mappingField, if_pos (List.all_eq_true.2 h)]

/-! ## Running through parts of a document -/

/-- The members of a value: items, characters, keys or octets. -/
def membersOf : Option Value → Except Failure (List Value)
  | none => .ok []
  | some v =>
    if !v.isTrue then .ok []
    else
      match v with
      | .list items | .tuple items => .ok items
      | .set members => .ok members
      | .map entries => .ok (entries.map Prod.fst)
      | .str s => .ok (s.toList.map fun c => .str (String.singleton c))
      | .bytes octets => .ok (octets.map fun (n : Nat) => .int n)
      | _ => .error (.malformed .noMembers)

/-- The entries of a value. -/
def entriesOf : Option Value → Except Failure Entries
  | none => .ok []
  | some v =>
    if !v.isTrue then .ok []
    else
      match v with
      | .map entries => .ok entries
      | _ => .error (.malformed .noEntries)

end ClientPlan
