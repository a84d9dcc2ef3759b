import ClientPlan.Proofs.Pointer.Location
import ClientPlan.Schema.Encoder

/-!
# Documents that agree on references

A document is looked at in two ways only: from the top, and by following references.  So two
documents with the same top look alike if every reference that can be met leads to the same in
both (`AgreeOn`).  The references that can be met in a value are the texts at keys that read `$ref`: where
keys are to be texts, octets are taken for the text that they encode.
-/

set_option autoImplicit false

namespace ClientPlan

/-! ## References in a value -/

/-- The text that a key is taken for where keys are to be texts. -/
def Value.spelled? (k : Value) : Option String := (checkText [] k).toOption

/-- Whether no key of some entries is a mapping, as in every document, and the texts at keys that
read `$ref` are all among some references. -/
def refersWithin (within : String → Bool) (entries : Entries) : Bool :=
  entries.all fun e =>
    !e.1.isMap && (e.1.spelled? != some referenceKey || e.2.text?.all within)

/-- Every reference that can be met inside a value is one of some references. -/
def Value.RefersWithin (within : String → Bool) (v : Value) : Prop :=
  v.everyMap (refersWithin within) = true

section

variable {within : String → Bool}

theorem refersWithin_iff {entries : Entries} :
    refersWithin within entries = true ↔ ∀ e ∈ entries, e.1.isMap = false ∧
      (e.1.spelled? = some referenceKey → ∀ ref, e.2 = .str ref → within ref = true) := by
  rw [refersWithin, List.all_eq_true]
  refine forall_congr' fun e => forall_congr' fun _ => ?_
  rw [Bool.and_eq_true, Bool.not_eq_true', Bool.or_eq_true, bne_iff_ne]
  refine and_congr_right fun _ => ?_
  cases hv : e.2 with
  | str ref =>
    simp only [Value.text?, Option.all_some, Value.str.injEq, forall_eq']
    exact Decidable.imp_iff_not_or.symm
  | _ => simp [Value.text?]

/-- A key is checked for the text that it is taken for. -/
theorem spelled?_of_checkText {location : List Step} {k : Value} {s : String}
    (h : checkText location k = .ok s) : k.spelled? = some s := by
  rw [Value.spelled?, toOption_eq_some_iff]
  unfold checkText at h ⊢
  cases k with
  | str t => exact h
  | bytes octets =>
    dsimp only at h ⊢
    split at h
    · exact h
    · cases h
  | _ => cases h

namespace Value.RefersWithin

variable {v w : Value} {entries : Entries}

theorem get? (h : v.RefersWithin within) {key : String} (hw : v.get? key = some w) :
    w.RefersWithin within := Value.everyMap_get? h hw

theorem entry (h : (Value.map entries).RefersWithin within) {k : Value} (hm : (k, v) ∈ entries) :
    v.RefersWithin within := Value.everyMap_of_mem_entries h hm

theorem mem {items : List Value} (h : (Value.list items).RefersWithin within) (hm : v ∈ items) :
    v.RefersWithin within := Value.everyMap_of_mem h hm

/-- A reference that a value is is one of those that can be met. -/
theorem within_of_get? (h : v.RefersWithin within) {ref : String}
    (hr : v.get? referenceKey = some (.str ref)) : within ref = true := by
  cases v with
  | map entries =>
    have hentry := refersWithin_iff.1 (Value.test_of_everyMap h) _ (Value.mem_of_lookupText hr)
    exact hentry.2 rfl ref rfl
  | _ => cases hr

/-- A mapping refers within what its entries do. -/
theorem of_entries (h : ∀ e ∈ entries, e.1.isMap = false ∧
      (e.1.spelled? = some referenceKey → ∀ ref, e.2 = .str ref → within ref = true) ∧
      e.2.RefersWithin within) : (Value.map entries).RefersWithin within :=
  Value.everyMap_map (refersWithin_iff.2 fun e he => ⟨(h e he).1, (h e he).2.1⟩)
    fun e he => (h e he).2.2

end Value.RefersWithin

/-! ## Changed mappings -/

/-- Checked entries stand under the texts that their keys are taken for. -/
theorem mem_of_checkEntries {name : String} {entries l : Entries}
    (h : checkEntries name entries = .ok l) {e : Value × Value} (he : e ∈ l) :
    ∃ k s, (k, e.2) ∈ entries ∧ k.spelled? = some s ∧ e.1 = .str s := by
  induction entries generalizing l with
  | nil =>
    cases h
    cases he
  | cons e' r ih =>
    obtain ⟨k, v⟩ := e'
    obtain ⟨⟨s, rest⟩, hboth, rfl⟩ := map_eq_ok.1 h
    obtain ⟨hkey, hrest⟩ := Checked.both_eq_ok.1 hboth
    rcases List.mem_cons.1 he with rfl | he
    · exact ⟨k, s, List.mem_cons_self, spelled?_of_checkText hkey, rfl⟩
    · obtain ⟨k', s', hm, hs⟩ := ih hrest he
      exact ⟨k', s', List.mem_cons_of_mem _ hm, hs⟩

theorem isStr_of_mem_checkEntries {name : String} {entries l : Entries}
    (h : checkEntries name entries = .ok l) : ∀ e ∈ l, e.1.isStr = true := by
  intro e he
  obtain ⟨k, s, -, -, hstr⟩ := mem_of_checkEntries h he
  rw [hstr]
  rfl

/-- Whatever stands in the mapping of checked entries was given under a key that is taken for its
text. -/
theorem mem_of_foldl_checkEntries {name : String} {entries l : Entries}
    (h : checkEntries name entries = .ok l) {e : Value × Value}
    (he : e ∈ l.foldl (fun entries e => setEntry e.1 e.2 entries) []) :
    ∃ k s, (k, e.2) ∈ entries ∧ k.spelled? = some s ∧ e.1 = .str s :=
  mem_of_checkEntries h
    ((mem_of_mem_foldl_setEntry (isStr_of_mem_checkEntries h) he).resolve_left List.not_mem_nil)

namespace Value.RefersWithin

variable {v w : Value}

/-- A field for mappings with text keys holds a value that refers within the same. -/
theorem mappingField (h : v.RefersWithin within) {name : String}
    (hf : ClientPlan.mappingField name v = .ok w) : w.RefersWithin within := by
  cases v with
  | map entries =>
    rw [ClientPlan.mappingField] at hf
    split at hf
    · cases hf
      exact h
    obtain ⟨l, hl, rfl⟩ := map_eq_ok.1 hf
    refine of_entries fun e he => ?_
    obtain ⟨k, s, hm, hs, hstr⟩ := mem_of_foldl_checkEntries hl he
    have hentry := refersWithin_iff.1 (Value.test_of_everyMap h) _ hm
    refine ⟨by rw [hstr]; rfl, fun href => ?_, h.entry hm⟩
    rw [hstr] at href
    exact hentry.2 (hs.trans href)
  | _ =>
    cases hf
    exact h

/-- A schema with one of its types refers within the same. -/
theorem withType (h : v.RefersWithin within) {t : Value} (ht : t ∈ Encoder.typeList v) :
    (Encoder.withType v t).RefersWithin within := by
  cases v with
  | map entries =>
    have htype : t.RefersWithin within := by
      rw [Encoder.typeList] at ht
      cases hl : listAt? (.map entries) "type" with
      | none =>
        rw [hl] at ht
        cases ht
      | some types =>
        rw [hl] at ht
        exact (h.get? (get?_of_listAt? hl)).mem ht
    refine of_entries fun e he => ?_
    rcases mem_setEntry he with he | rfl
    · have hentry := refersWithin_iff.1 (Value.test_of_everyMap h) _ he
      exact ⟨hentry.1, hentry.2, h.entry he⟩
    · exact ⟨rfl, fun href => absurd (Option.some.inj href) (by decide), htype⟩
  | _ => exact h

end Value.RefersWithin

/-! ## Agreement -/

/-- Two documents agree on some references: each of them leads to the same in both, and what it
leads to refers within them again. -/
structure AgreeOn (within : String → Bool) (document document' : Value) : Prop where
  /-- The references lead to the same. -/
  resolve : ∀ ref, within ref = true →
    Pointer.resolve document' ref = Pointer.resolve document ref
  /-- Nothing but such references is met behind them. -/
  closed : ∀ ref v, within ref = true → Pointer.resolve document ref = .ok v →
    v.RefersWithin within

/-- Whatever a reference leads to in a document refers within what the document does. -/
theorem Value.RefersWithin.of_resolve {document : Value} (h : document.RefersWithin within)
    {ref : String} {v : Value} (hv : Pointer.resolve document ref = .ok v) :
    v.RefersWithin within := by
  obtain ⟨path, hat⟩ := Position.At.of_resolve hv
  exact Pointer.everyMap_locate? h hat.located

/-- If there is a schema at a position, it refers within some references. -/
def Position.RefersWithin (within : String → Bool) (p : Position) : Prop :=
  p.node.isMap = true → p.node.RefersWithin within

namespace AgreeOn

variable {document document' v : Value} {ref : String}

/-- What a value refers to is the same in both documents. -/
theorem resolve_of_get? (h : AgreeOn within document document') (hv : v.RefersWithin within)
    (hr : v.get? referenceKey = some (.str ref)) :
    Pointer.resolve document' ref = Pointer.resolve document ref :=
  h.resolve ref (hv.within_of_get? hr)

theorem closed_of_get? (h : AgreeOn within document document') (hv : v.RefersWithin within)
    (hr : v.get? referenceKey = some (.str ref)) {target : Value}
    (ht : Pointer.resolve document ref = .ok target) : target.RefersWithin within :=
  h.closed ref target (hv.within_of_get? hr) ht

end AgreeOn

end

end ClientPlan
