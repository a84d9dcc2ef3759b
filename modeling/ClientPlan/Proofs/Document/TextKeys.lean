import ClientPlan.Api.Field

/-!
# Documents with text keys

A document has text keys if the keys of every mapping inside it are texts and no text is a key of a
mapping twice.  In such a document every entry of a mapping is found at its key, and a field that
holds a mapping holds it unchanged.
-/

set_option autoImplicit false

namespace ClientPlan

namespace Value

/-! ## Every mapping -/

mutual

/-- Whether every mapping inside a value passes a test. -/
def everyMap (test : Entries → Bool) : Value → Bool
  | list items => itemsEveryMap test items
  | map entries => test entries && entriesEveryMap test entries
  | set members => itemsEveryMap test members
  | tuple items => itemsEveryMap test items
  | _ => true

/-- Whether every mapping inside the values of a list passes a test. -/
def itemsEveryMap (test : Entries → Bool) : List Value → Bool
  | [] => true
  | v :: r => v.everyMap test && itemsEveryMap test r

/-- Whether every mapping inside the values of some entries passes a test. -/
def entriesEveryMap (test : Entries → Bool) : Entries → Bool
  | [] => true
  | (_, v) :: r => v.everyMap test && entriesEveryMap test r

end

variable {test : Entries → Bool}

theorem everyMap_of_mem {items : List Value} {v : Value} (h : (list items).everyMap test = true)
    (hv : v ∈ items) : v.everyMap test = true := by
  rw [everyMap] at h
  induction items with
  | nil => cases hv
  | cons w r ih =>
    rw [itemsEveryMap, Bool.and_eq_true] at h
    rcases List.mem_cons.1 hv with rfl | hv
    · exact h.1
    · exact ih h.2 hv

theorem test_of_everyMap {entries : Entries} (h : (map entries).everyMap test = true) :
    test entries = true := by
  rw [everyMap, Bool.and_eq_true] at h
  exact h.1

theorem everyMap_of_mem_entries {entries : Entries} {e : Value × Value}
    (h : (map entries).everyMap test = true) (he : e ∈ entries) : e.2.everyMap test = true := by
  rw [everyMap, Bool.and_eq_true] at h
  replace h := h.2
  induction entries with
  | nil => cases he
  | cons w r ih =>
    obtain ⟨k, v⟩ := w
    rw [entriesEveryMap, Bool.and_eq_true] at h
    rcases List.mem_cons.1 he with rfl | he
    · exact h.1
    · exact ih he h.2

/-- A mapping that passes a test and whose values do inside passes it everywhere. -/
theorem everyMap_map {entries : Entries} (h : test entries = true)
    (hv : ∀ e ∈ entries, e.2.everyMap test = true) : (map entries).everyMap test = true := by
  rw [everyMap, Bool.and_eq_true]
  refine ⟨h, ?_⟩
  clear h
  induction entries with
  | nil => rfl
  | cons e r ih =>
    obtain ⟨k, v⟩ := e
    rw [entriesEveryMap, Bool.and_eq_true]
    obtain ⟨hfirst, hrest⟩ := List.forall_mem_cons.1 hv
    exact ⟨hfirst, ih hrest⟩

theorem everyMap_get? {v w : Value} {key : String} (h : v.everyMap test = true)
    (hw : v.get? key = some w) : w.everyMap test = true := by
  cases v with
  | map entries => exact everyMap_of_mem_entries h (mem_of_lookupText hw)
  | _ => cases hw

mutual

/-- Every mapping passes a weaker test. -/
theorem everyMap_mono {test test' : Entries → Bool}
    (h : ∀ entries, test entries = true → test' entries = true) :
    ∀ v : Value, v.everyMap test = true → v.everyMap test' = true
  | list items => by
    rw [everyMap, everyMap]
    exact itemsEveryMap_mono h items
  | map entries => by
    rw [everyMap, everyMap, Bool.and_eq_true, Bool.and_eq_true]
    exact And.imp (h entries) (entriesEveryMap_mono h entries)
  | set members => by
    rw [everyMap, everyMap]
    exact itemsEveryMap_mono h members
  | tuple items => by
    rw [everyMap, everyMap]
    exact itemsEveryMap_mono h items
  | null | bool _ | int _ | float _ | str _ | date _ | moment _ | bytes _ => fun _ => rfl

theorem itemsEveryMap_mono {test test' : Entries → Bool}
    (h : ∀ entries, test entries = true → test' entries = true) :
    ∀ items : List Value, itemsEveryMap test items = true → itemsEveryMap test' items = true
  | [] => id
  | v :: r => by
    rw [itemsEveryMap, itemsEveryMap, Bool.and_eq_true, Bool.and_eq_true]
    exact And.imp (everyMap_mono h v) (itemsEveryMap_mono h r)

theorem entriesEveryMap_mono {test test' : Entries → Bool}
    (h : ∀ entries, test entries = true → test' entries = true) :
    ∀ entries : Entries, entriesEveryMap test entries = true → entriesEveryMap test' entries = true
  | [] => id
  | (_, v) :: r => by
    rw [entriesEveryMap, entriesEveryMap, Bool.and_eq_true, Bool.and_eq_true]
    exact And.imp (everyMap_mono h v) (entriesEveryMap_mono h r)

end

theorem agrees_str {k : Value} {key : String} : k.agrees (.str key) = true ↔ k = .str key := by
  cases k <;> simp [agrees]

/-- What has a value at a key is a mapping. -/
theorem isMap_of_get? {v w : Value} {key : String} (h : v.get? key = some w) : v.isMap = true := by
  cases v with
  | map entries => rfl
  | _ => cases h

theorem eq_str_of_isText {s : String} {v : Value} (h : v.isText s = true) : v = .str s := by
  cases v with
  | str t => rw [eq_of_beq h]
  | _ => cases h

end Value

/-! ## Text keys -/

/-- Whether no text is a key of some entries twice. -/
def distinctTexts (entries : Entries) : Bool :=
  decide (entries.filterMap fun e => e.1.text?).Nodup

/-- Whether the keys of some entries are distinct texts. -/
def textKeyed (entries : Entries) : Bool :=
  (entries.all fun e => e.1.isStr) && decide (entries.filterMap fun e => e.1.text?).Nodup

/-- Whether the keys of every mapping inside a value are distinct texts. -/
def Value.hasTextKeys (v : Value) : Bool := v.everyMap textKeyed

theorem textKeyed_of_hasTextKeys {entries : Entries}
    (h : (Value.map entries).hasTextKeys = true) : textKeyed entries = true :=
  Value.test_of_everyMap h

/-- The value of an entry is found at its key, if that is a text that is no key twice. -/
theorem lookupText_of_distinctTexts {entries : Entries} {key : String} {v : Value}
    (h : distinctTexts entries = true) (hm : (.str key, v) ∈ entries) :
    lookupText key entries = some v := by
  rw [distinctTexts, decide_eq_true_eq] at h
  fun_induction lookupText key entries with
  | case1 => cases hm
  | case2 v' r =>
    rcases List.mem_cons.1 hm with heq | hm
    · cases heq
      rfl
    · simp only [List.filterMap_cons, Value.text?, List.nodup_cons] at h
      exact (h.1 (List.mem_filterMap.2 ⟨_, hm, rfl⟩)).elim
  | case3 k v' r hk ih =>
    simp only [List.filterMap_cons, Value.text?, List.nodup_cons] at h
    rcases List.mem_cons.1 hm with heq | hm
    · cases heq
      exact absurd rfl hk
    · exact ih h.2 hm
  | case4 e r hno ih =>
    rcases List.mem_cons.1 hm with heq | hm
    · exact absurd heq.symm (hno key v)
    · refine ih ?_ hm
      exact h.sublist ((List.sublist_cons_self e r).filterMap _)

/-- In a value with text keys no text is a key of a mapping twice. -/
theorem distinctTexts_of_hasTextKeys {v : Value} (h : v.hasTextKeys = true) :
    v.everyMap distinctTexts = true :=
  Value.everyMap_mono (fun _ hkeys => (Bool.and_eq_true_iff.1 hkeys).2) v h

/-- An entry with a text key of its own is found at that key. -/
theorem lookupText_of_mem {entries : Entries} {k v : Value} (h : textKeyed entries = true)
    (hm : (k, v) ∈ entries) : ∃ key, k = .str key ∧ lookupText key entries = some v := by
  rw [textKeyed, Bool.and_eq_true, List.all_eq_true] at h
  have hk : k.isStr = true := h.1 _ hm
  cases k with
  | str key => exact ⟨key, rfl, lookupText_of_distinctTexts h.2 hm⟩
  | _ => cases hk

/-- A field that holds a value with text keys holds it unchanged. -/
theorem mappingField_of_hasTextKeys {name : String} {v : Value} (h : v.hasTextKeys = true) :
    mappingField name v = .ok v := by
  cases v with
  | map entries =>
    refine mappingField_eq_ok ?_
    have hkeys := textKeyed_of_hasTextKeys h
    rw [textKeyed, Bool.and_eq_true, List.all_eq_true] at hkeys
    exact hkeys.1
  | _ => rfl

/-- A field holds a mapping just if it is given one. -/
theorem isMap_eq_of_mappingField {name : String} {v w : Value} (h : mappingField name v = .ok w) :
    w.isMap = v.isMap := by
  cases v with
  | map entries =>
    rw [mappingField] at h
    split at h
    · cases h
      rfl
    cases hl : checkEntries name entries with
    | error issues =>
      rw [hl] at h
      cases h
    | ok l =>
      rw [hl] at h
      cases h
      rfl
  | _ =>
    cases h
    rfl

/-! ## Entries that are set -/

theorem mem_setEntry {key : String} {v : Value} {entries : Entries} {e : Value × Value}
    (h : e ∈ setEntry (.str key) v entries) : e ∈ entries ∨ e = (.str key, v) := by
  induction entries with
  | nil => exact .inr (List.mem_singleton.1 h)
  | cons e' r ih =>
    obtain ⟨k, w⟩ := e'
    rw [setEntry] at h
    split at h
    · next hk =>
      cases Value.agrees_str.1 hk
      rcases List.mem_cons.1 h with rfl | h
      · exact .inr rfl
      · exact .inl (List.mem_cons_of_mem _ h)
    · rcases List.mem_cons.1 h with rfl | h
      · exact .inl List.mem_cons_self
      · exact (ih h).imp_left (List.mem_cons_of_mem _)

/-- Entries under texts are kept or left out when they are put together to a mapping. -/
theorem mem_of_mem_foldl_setEntry {l entries : Entries} (hl : ∀ e ∈ l, e.1.isStr = true)
    {e : Value × Value}
    (h : e ∈ l.foldl (fun entries e => setEntry e.1 e.2 entries) entries) :
    e ∈ entries ∨ e ∈ l := by
  induction l generalizing entries with
  | nil => exact .inl h
  | cons e' r ih =>
    obtain ⟨k, v⟩ := e'
    obtain ⟨hk, hr⟩ := List.forall_mem_cons.1 hl
    rcases ih hr h with h | h
    · cases k with
      | str s =>
        rcases mem_setEntry h with h | rfl
        · exact .inl h
        · exact .inr List.mem_cons_self
      | _ => cases hk
    · exact .inr (List.mem_cons_of_mem _ h)

/-- At another text there is what was there before. -/
theorem lookupText_setEntry {key key' : String} {v : Value} {entries : Entries} (h : key' ≠ key) :
    lookupText key' (setEntry (.str key) v entries) = lookupText key' entries := by
  induction entries with
  | nil =>
    rw [setEntry, lookupText.eq_2, if_neg h.symm]
  | cons e r ih =>
    obtain ⟨k, w⟩ := e
    rw [setEntry]
    split
    · next hk =>
      cases Value.agrees_str.1 hk
      rw [lookupText, lookupText, if_neg h.symm, if_neg h.symm]
    · cases k with
      | str k => rw [lookupText, lookupText, ih]
      | _ => exact ih

theorem lookupText_setEntry_self {key : String} {v : Value} {entries : Entries} :
    lookupText key (setEntry (.str key) v entries) = some v := by
  induction entries with
  | nil => rw [setEntry, lookupText, if_pos rfl]
  | cons e r ih =>
    obtain ⟨k, w⟩ := e
    rw [setEntry]
    split
    · next hk =>
      cases Value.agrees_str.1 hk
      rw [lookupText, if_pos rfl]
    · next hk =>
      cases k with
      | str k => rw [lookupText, if_neg fun he => hk (Value.agrees_str.2 (congrArg Value.str he)), ih]
      | _ => exact ih

theorem map_fst_setEntry {key v : Value} {entries : Entries} :
    (setEntry key v entries).map Prod.fst =
      if entries.any (fun e => e.1.agrees key) then entries.map Prod.fst
      else entries.map Prod.fst ++ [key] := by
  induction entries with
  | nil => rfl
  | cons e r ih =>
    rw [setEntry, List.any_cons]
    split
    · next hk =>
      rw [hk, Bool.true_or, if_pos rfl]
      rfl
    · next hk =>
      rw [Bool.eq_false_iff.2 hk, Bool.false_or, List.map_cons, ih]
      split <;> rfl

theorem textKeyed_iff {entries : Entries} : textKeyed entries = true ↔
    (∀ k ∈ entries.map Prod.fst, k.isStr = true) ∧
      ((entries.map Prod.fst).filterMap Value.text?).Nodup := by
  rw [textKeyed, Bool.and_eq_true, List.all_eq_true, decide_eq_true_eq, List.filterMap_map,
    List.forall_mem_map]
  rfl

/-- Entries stay keyed by texts of their own when a value is set at a text. -/
theorem textKeyed_setEntry {key : String} {v : Value} {entries : Entries}
    (h : textKeyed entries = true) : textKeyed (setEntry (.str key) v entries) = true := by
  rw [textKeyed_iff] at h ⊢
  rw [map_fst_setEntry]
  split
  · exact h
  · next hnone =>
    obtain ⟨hall, hnodup⟩ := h
    refine ⟨List.forall_mem_append.2 ⟨hall, List.forall_mem_singleton.2 rfl⟩, ?_⟩
    rw [List.filterMap_append]
    refine List.nodup_append.2 ⟨hnodup, List.pairwise_singleton _ _, fun s hkey s' hs' heq => ?_⟩
    cases List.mem_singleton.1 hs'
    subst heq
    refine hnone ?_
    obtain ⟨k, hk, htext⟩ := List.mem_filterMap.1 hkey
    obtain ⟨e, he, rfl⟩ := List.mem_map.1 hk
    refine List.any_eq_true.2 ⟨e, he, Value.agrees_str.2 ?_⟩
    cases hk : e.1 with
    | str s =>
      rw [hk] at htext
      cases htext
      rfl
    | _ =>
      rw [hk] at htext
      cases htext

theorem textKeyed_foldl_setEntry {l entries : Entries} (hl : ∀ e ∈ l, e.1.isStr = true)
    (h : textKeyed entries = true) :
    textKeyed (l.foldl (fun entries e => setEntry e.1 e.2 entries) entries) = true := by
  induction l generalizing entries with
  | nil => exact h
  | cons e r ih =>
    obtain ⟨k, v⟩ := e
    obtain ⟨hk, hr⟩ := List.forall_mem_cons.1 hl
    cases k with
    | str key => exact ih hr (textKeyed_setEntry h)
    | _ => cases hk

end ClientPlan
