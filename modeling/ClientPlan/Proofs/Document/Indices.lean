import ClientPlan.Document.Value
import ClientPlan.Text.Digit

/-!
# Documents with indices

The index of an item is a decimal integer, and an integer with too many digits is not read.  A document
has indices if no list inside it has so many items that they cannot all be named; what has not is
longer than anything that can be held.
-/

set_option autoImplicit false

namespace ClientPlan

namespace Value

/-- Whether the number of some items is not too long to be read. -/
def isCounted (items : List Value) : Bool :=
  decide ((Text.decimal items.length).length ≤ Text.maxDigits)

mutual

/-- Whether the items of every list inside a value are counted. -/
def hasIndices : Value → Bool
  | list items => isCounted items && itemsHaveIndices items
  | map entries => entriesHaveIndices entries
  | set members => itemsHaveIndices members
  | tuple items => itemsHaveIndices items
  | _ => true

/-- Whether the items of every list inside some values are counted. -/
def itemsHaveIndices : List Value → Bool
  | [] => true
  | v :: r => v.hasIndices && itemsHaveIndices r

/-- Whether the items of every list inside the values of some entries are counted. -/
def entriesHaveIndices : Entries → Bool
  | [] => true
  | (_, v) :: r => v.hasIndices && entriesHaveIndices r

end

theorem isCounted_of_hasIndices {items : List Value} (h : (list items).hasIndices = true) :
    isCounted items = true := by
  rw [hasIndices, Bool.and_eq_true] at h
  exact h.1

theorem itemsHaveIndices_iff {items : List Value} :
    itemsHaveIndices items = true ↔ ∀ v ∈ items, v.hasIndices = true := by
  induction items with
  | nil => exact iff_of_true rfl (List.forall_mem_nil _)
  | cons v r ih => rw [itemsHaveIndices, Bool.and_eq_true, List.forall_mem_cons, ih]

theorem hasIndices_of_mem {items : List Value} {v : Value} (h : (list items).hasIndices = true)
    (hv : v ∈ items) : v.hasIndices = true := by
  rw [hasIndices, Bool.and_eq_true] at h
  exact itemsHaveIndices_iff.1 h.2 v hv

theorem hasIndices_of_mem_entries {entries : Entries} {e : Value × Value}
    (h : (map entries).hasIndices = true) (he : e ∈ entries) : e.2.hasIndices = true := by
  rw [hasIndices] at h
  induction entries with
  | nil => cases he
  | cons w r ih =>
    obtain ⟨k, v⟩ := w
    rw [entriesHaveIndices, Bool.and_eq_true] at h
    rcases List.mem_cons.1 he with rfl | he
    · exact h.1
    · exact ih h.2 he

theorem hasIndices_get? {v w : Value} {key : String} (h : v.hasIndices = true)
    (hw : v.get? key = some w) : w.hasIndices = true := by
  cases v with
  | map entries => exact hasIndices_of_mem_entries h (mem_of_lookupText hw)
  | _ => cases hw

end Value

/-- A number is no longer than a greater one. -/
theorem Text.length_decimal_le {m n digits : Nat} (hmn : m ≤ n)
    (h : (decimal n).length ≤ digits) : (decimal m).length ≤ digits := by
  have hpositive : 0 < digits := Nat.lt_of_lt_of_le Nat.length_toDigits_pos h
  have hlt := (Nat.length_toDigits_le_iff (by decide) hpositive).1 h
  exact (Nat.length_toDigits_le_iff (by decide) hpositive).2 (Nat.lt_of_le_of_lt hmn hlt)

end ClientPlan
