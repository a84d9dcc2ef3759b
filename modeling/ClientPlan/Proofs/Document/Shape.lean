import ClientPlan.Proofs.Document.TextKeys

/-!
# The shape of documents

A value is well keyed if no mapping inside it has a text as a key twice or a mapping as a key, and
if what stands at a key has mappings as members only if it is a list.  So every mapping among the
members of a field can be found again by its position.
-/

set_option autoImplicit false

namespace ClientPlan

/-- Whether a value is no collection. -/
def Value.isScalar : Value → Bool
  | list _ | map _ | set _ | tuple _ => false
  | _ => true

/-- Whether a value holds mappings as members only if it is a list. -/
def Value.isProper : Value → Bool
  | set members | tuple members => members.all fun v => !v.isMap
  | _ => true

/-- Whether mappings are no keys, and no members of a value at a key that is no list. -/
def mappingsInLists (entries : Entries) : Bool :=
  entries.all fun e => !e.1.isMap && e.2.isProper

/-- Whether no text is a key of some entries twice, mappings are no keys, and no members of a value
at a key that is no list. -/
def wellKeyed (entries : Entries) : Bool := distinctTexts entries && mappingsInLists entries

/-- Every mapping inside a value is well keyed. -/
def Value.WellKeyed (v : Value) : Prop := v.everyMap wellKeyed = true

namespace Value

variable {v : Value} {test : Entries → Bool}

theorem isMap_of_isScalar (h : v.isScalar = true) : v.isMap = false := by
  cases v <;> first | rfl | cases h

theorem isProper_of_isScalar (h : v.isScalar = true) : v.isProper = true := by
  cases v <;> first | rfl | cases h

theorem everyMap_of_isScalar (h : v.isScalar = true) : v.everyMap test = true := by
  cases v <;> first | rfl | cases h

/-- What every one of some values passes inside, they pass as items. -/
theorem itemsEveryMap_of_forall {items : List Value} (h : ∀ v ∈ items, v.everyMap test = true) :
    itemsEveryMap test items = true := by
  induction items with
  | nil => rfl
  | cons v r ih =>
    obtain ⟨hv, hr⟩ := List.forall_mem_cons.1 h
    rw [itemsEveryMap, hv, ih hr]
    rfl

end Value

theorem mappingsInLists_iff {entries : Entries} : mappingsInLists entries = true ↔
    ∀ e ∈ entries, e.1.isMap = false ∧ e.2.isProper = true := by
  rw [mappingsInLists, List.all_eq_true]
  refine forall_congr' fun e => forall_congr' fun _ => ?_
  rw [Bool.and_eq_true, Bool.not_eq_true']

namespace Value.WellKeyed

/-- In a well keyed value no text is a key of a mapping twice. -/
theorem everyMap_distinctTexts {v : Value} (h : v.WellKeyed) : v.everyMap distinctTexts = true :=
  Value.everyMap_mono (fun _ ht => (Bool.and_eq_true_iff.1 ht).1) v h

/-- A key of a well keyed mapping is no mapping, and its value holds mappings only as a list. -/
theorem entry {entries : Entries} (h : (Value.map entries).WellKeyed) {e : Value × Value}
    (he : e ∈ entries) : e.1.isMap = false ∧ e.2.isProper = true ∧ e.2.WellKeyed := by
  obtain ⟨-, hlists⟩ := Bool.and_eq_true_iff.1 (Value.test_of_everyMap h)
  obtain ⟨hkey, hvalue⟩ := mappingsInLists_iff.1 hlists e he
  exact ⟨hkey, hvalue, Value.everyMap_of_mem_entries h he⟩

end Value.WellKeyed

end ClientPlan
