/-!
# Totals and powers of naturals

The total of a list of naturals, the powers of two that the parts of a double are scaled by, and the
powers of ten that decimals are scaled by.
-/

set_option autoImplicit false

namespace ClientPlan.Number

/-- The total of a list. -/
def total : List Nat → Nat
  | [] => 0
  | n :: r => n + total r

@[simp] theorem total_nil : total [] = 0 := rfl

@[simp] theorem total_cons (n : Nat) (l : List Nat) : total (n :: l) = n + total l := rfl

@[simp] theorem total_append (l m : List Nat) : total (l ++ m) = total l + total m := by
  induction l with
  | nil => exact (Nat.zero_add _).symm
  | cons n r ih => rw [List.cons_append, total_cons, total_cons, ih, Nat.add_assoc]

/-- Nothing but zeros adds up to zero. -/
theorem total_map_zero {α : Type} (l : List α) : total (l.map fun _ => 0) = 0 := by
  induction l with
  | nil => rfl
  | cons a r ih => rw [List.map_cons, total_cons, ih]

/-- The power of two with an exponent. -/
def twoTo (k : Nat) : Nat := Nat.pow 2 k

/-- The power of ten with an exponent. -/
def tenTo (k : Nat) : Nat := Nat.pow 10 k

/-- Whether an integer fits into 64 bits with a sign. -/
def fitsWord (n : Int) : Bool := -(twoTo 63 : Int) ≤ n && n < twoTo 63

end ClientPlan.Number
