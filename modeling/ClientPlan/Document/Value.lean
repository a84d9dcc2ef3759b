import ClientPlan.Document.Calendar
import ClientPlan.Number.Shortest

/-!
# Document values

A document is a tree of dynamic values.  A mapping keeps its entries in order and may have keys that
are not texts; of keys that agree only the first is kept.  Truth values and numbers agree as keys
when they are equal as numbers.

* `Value.get?` looks a text key up;
* `setEntry` adds an entry or replaces the value of the entry whose key agrees;
* `Value.size` is the measure for recursion on values: an entry is smaller than its mapping
  (`size_get?_lt`), an item smaller than its list (`size_lt_of_mem`).
-/

set_option autoImplicit false

namespace ClientPlan

/-- A dynamic value. -/
inductive Value where
  /-- The absent value. -/
  | null
  /-- A truth value. -/
  | bool (b : Bool)
  /-- An integer of any size. -/
  | int (n : Int)
  /-- A double. -/
  | float (x : Float)
  /-- A text. -/
  | str (s : String)
  /-- A sequence of values. -/
  | list (items : List Value)
  /-- A mapping in order of insertion. -/
  | map (entries : List (Value × Value))
  /-- A calendar date. -/
  | date (d : Date)
  /-- A moment. -/
  | moment (m : Moment)
  /-- A sequence of octets. -/
  | bytes (octets : List Nat)
  /-- A set of values in order of insertion. -/
  | set (members : List Value)
  /-- A fixed number of values, such as a pair. -/
  | tuple (items : List Value)
deriving Inhabited

/-- The entries of a mapping. -/
abbrev Entries := List (Value × Value)

namespace Value

/-- The name of the kind of a value. -/
def kind : Value → String
  | null => "NoneType"
  | bool _ => "bool"
  | int _ => "int"
  | float _ => "float"
  | str _ => "str"
  | list _ => "list"
  | map _ => "dict"
  | date _ => "date"
  | moment _ => "datetime"
  | bytes _ => "bytes"
  | set _ => "set"
  | tuple _ => "tuple"

mutual

/-- Whether a value may be a key of a mapping: neither a list, a mapping nor a set, nor a tuple that
holds one. -/
def isKey : Value → Bool
  | list _ | map _ | set _ => false
  | tuple items => areKeys items
  | _ => true

/-- Whether all values of a list may be keys. -/
def areKeys : List Value → Bool
  | [] => true
  | v :: r => v.isKey && areKeys r

end

/-- Whether a value can be looked for in a set: as a key can, and as another set can. -/
def isSought : Value → Bool
  | set _ => true
  | v => v.isKey

/-- Whether two values are the same key. -/
def agrees : Value → Value → Bool
  | null, null => true
  | bool a, bool b => a == b
  | bool a, int n => n == a.toNat
  | int n, bool a => n == a.toNat
  | bool a, float x => Number.isInt x a.toNat
  | float x, bool a => Number.isInt x a.toNat
  | int a, int b => a == b
  | int n, float x => Number.isInt x n
  | float x, int n => Number.isInt x n
  | float x, float y => x == y
  | str a, str b => a == b
  | date a, date b => a == b
  | moment a, moment b => a.agrees b
  | bytes a, bytes b => a == b
  | _, _ => false

/-- Whether a value counts as true: all but the absent value, false, zeros and empty values. -/
def isTrue : Value → Bool
  | null => false
  | bool b => b
  | int n => n != 0
  | float x => !Number.isZero x
  | str s => s != ""
  | list items => !items.isEmpty
  | map entries => !entries.isEmpty
  | date _ => true
  | moment _ => true
  | bytes octets => !octets.isEmpty
  | set members => !members.isEmpty
  | tuple items => !items.isEmpty

end Value

/-! ## Entries -/

/-- The value of the first entry whose key is the text `key`. -/
def lookupText (key : String) : Entries → Option Value
  | [] => none
  | (.str k, v) :: r => if k = key then some v else lookupText key r
  | _ :: r => lookupText key r

/-- The entries with `value` at `key`: an entry whose key agrees keeps its key and its position. -/
def setEntry (key value : Value) : Entries → Entries
  | [] => [(key, value)]
  | (k, v) :: r => if k.agrees key then (k, value) :: r else (k, v) :: setEntry key value r

/-- The mapping built from a list of entries: the first of agreeing keys, the last of their values. -/
def Value.ofEntries (l : Entries) : Value :=
  .map (l.foldl (fun entries e => setEntry e.1 e.2 entries) [])

/-- A mapping with text keys. -/
def Value.ofFields (l : List (String × Value)) : Value :=
  .map (l.map fun e => (.str e.1, e.2))

namespace Value

/-- The value at a text key of a mapping. -/
def get? (key : String) : Value → Option Value
  | map entries => lookupText key entries
  | _ => none

/-- Whether a value is a mapping with the text key `key`. -/
def has (key : String) (v : Value) : Bool := (v.get? key).isSome

/-- Whether a value is a mapping. -/
def isMap : Value → Bool
  | map _ => true
  | _ => false

/-- Whether a value is the text `s`. -/
def isText (s : String) : Value → Bool
  | str t => t == s
  | _ => false

/-- The text that a value is. -/
def text? : Value → Option String
  | str s => some s
  | _ => none

/-! ## Size -/

mutual

/-- The number of nodes of a value. -/
def size : Value → Nat
  | list items => 1 + sizeItems items
  | map entries => 1 + sizeEntries entries
  | set members => 1 + sizeItems members
  | tuple items => 1 + sizeItems items
  | _ => 1

/-- The number of nodes of a list of values. -/
def sizeItems : List Value → Nat
  | [] => 0
  | v :: r => v.size + sizeItems r

/-- The number of nodes of a list of entries. -/
def sizeEntries : Entries → Nat
  | [] => 0
  | (k, v) :: r => k.size + v.size + sizeEntries r

end

theorem size_pos (v : Value) : 0 < v.size := by
  cases v <;> simp only [size] <;> omega

theorem size_le_sizeItems {v : Value} {l : List Value} (h : v ∈ l) : v.size ≤ sizeItems l := by
  induction l with
  | nil => cases h
  | cons w r ih =>
    rw [sizeItems]
    rcases List.mem_cons.1 h with rfl | h
    · omega
    · have := ih h; omega

theorem size_le_sizeEntries {e : Value × Value} {l : Entries} (h : e ∈ l) :
    e.2.size ≤ sizeEntries l := by
  induction l with
  | nil => cases h
  | cons w r ih =>
    obtain ⟨k, v⟩ := w
    rw [sizeEntries]
    rcases List.mem_cons.1 h with rfl | h
    · dsimp only; omega
    · have := ih h; omega

theorem mem_of_lookupText {key : String} {l : Entries} {v : Value}
    (h : lookupText key l = some v) : (Value.str key, v) ∈ l := by
  fun_induction lookupText key l with
  | case1 => cases h
  | case2 v' r => cases h; exact List.mem_cons_self
  | case3 k v' r hk ih => exact List.mem_cons_of_mem _ (ih h)
  | case4 e r _ ih => exact List.mem_cons_of_mem _ (ih h)

/-- An item is smaller than its list. -/
theorem size_lt_of_mem {v : Value} {l : List Value} (h : v ∈ l) : v.size < (list l).size := by
  have := size_le_sizeItems h
  rw [size]; omega

/-- The value of an entry is smaller than its mapping. -/
theorem size_lt_of_mem_entries {e : Value × Value} {l : Entries} (h : e ∈ l) :
    e.2.size < (map l).size := by
  have := size_le_sizeEntries h
  rw [size]; omega

/-- The value at a key is smaller than the mapping. -/
theorem size_get?_lt {key : String} {v w : Value} (h : v.get? key = some w) : w.size < v.size := by
  cases v with
  | map l => exact size_lt_of_mem_entries (mem_of_lookupText h)
  | _ => cases h

end Value

end ClientPlan
