import ClientPlan.Document.Value

/-!
# The text of a value

`Value.text` is how a value is written when a text is needed in its place, and `Value.quoted` is how
it is written inside another value.  The two differ for texts, which are quoted inside other values,
and for dates and moments.
-/

set_option autoImplicit false

namespace ClientPlan

/-- Doubles are positional from `0.0001` up to below `10^16`; exponents have two digits or more. -/
def doubleLayout : Number.Layout := ⟨-4, 15, 2, "inf", "nan"⟩

/-- The text of an integer. -/
def integerText (n : Int) : String := String.ofList (Text.decimalInt n)

namespace Value

mutual

/-- A value as it is written inside another value. -/
def quoted : Value → String
  | null => "None"
  | bool b => if b then "True" else "False"
  | int n => integerText n
  | float x => doubleLayout.render x
  | str s => Text.quoted s
  | list items => "[" ++ ", ".intercalate (quotedItems items) ++ "]"
  | map entries => "\x7b" ++ ", ".intercalate (quotedEntries entries) ++ "\x7d"
  | date d => d.quoted
  | moment m => m.quoted
  | bytes octets => Text.quotedOctets octets
  | set members =>
    match quotedItems members with
    | [] => "set()"
    | shown => "\x7b" ++ ", ".intercalate shown ++ "\x7d"
  | tuple items =>
    match quotedItems items with
    | [shown] => "(" ++ shown ++ ",)"
    | shown => "(" ++ ", ".intercalate shown ++ ")"

/-- The values of a list as they are written inside another value. -/
def quotedItems : List Value → List String
  | [] => []
  | v :: r => v.quoted :: quotedItems r

/-- The entries of a mapping, each as key and value separated by a colon. -/
def quotedEntries : Entries → List String
  | [] => []
  | (k, v) :: r => (k.quoted ++ ": " ++ v.quoted) :: quotedEntries r

end

/-- The least number that has too many digits to be written. -/
def tooLong : Nat := Number.tenTo Text.maxDigits

mutual

/-- Whether a value can be written: no integer in it has too many digits. -/
def isWritable : Value → Bool
  | int n => n.natAbs < tooLong
  | list items | set items | tuple items => areWritable items
  | map entries => entriesAreWritable entries
  | _ => true

/-- Whether all values of a list can be written. -/
def areWritable : List Value → Bool
  | [] => true
  | v :: r => v.isWritable && areWritable r

/-- Whether all entries of a mapping can be written. -/
def entriesAreWritable : Entries → Bool
  | [] => true
  | (k, v) :: r => k.isWritable && v.isWritable && entriesAreWritable r

end

/-- A value as text. -/
def text : Value → String
  | str s => s
  | date d => d.text
  | moment m => m.text
  | v => v.quoted

end Value

end ClientPlan
