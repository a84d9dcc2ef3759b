import ClientPlan.Proofs.Document.Agreement

/-!
# Keys of octets

A field that holds a mapping takes keys of octets for the texts that they encode.  It keeps the
value at a key, if no octets of the mapping are taken for that key (`get?_eq_of_mappingField`).
-/

set_option autoImplicit false

namespace ClientPlan

/-- No octets that are a key of a mapping are taken for the text `key`. -/
def Value.SpellsAsText (v : Value) (key : String) : Prop :=
  ∀ entries, v = .map entries → ∀ e ∈ entries, e.1.spelled? = some key → e.1.isStr = true

/-- A text is taken for itself alone. -/
theorem eq_str_of_spelled? {k : Value} {key : String} (hk : k.isStr = true)
    (h : k.spelled? = some key) : k = .str key := by
  cases k with
  | str s => exact congrArg Value.str (Option.some.inj h)
  | _ => cases hk

/-! ## Entries put together -/

theorem exists_lookupText {key : String} {entries : Entries}
    (h : .str key ∈ entries.map Prod.fst) : ∃ v, lookupText key entries = some v := by
  fun_induction lookupText key entries with
  | case1 => cases h
  | case2 v r => exact ⟨v, rfl⟩
  | case3 k v r hk ih =>
    rcases List.mem_cons.1 h with heq | h
    · cases heq
      exact absurd rfl hk
    · exact ih h
  | case4 e r hno ih =>
    rcases List.mem_cons.1 h with heq | h
    · exact (hno key e.2 (Prod.ext heq.symm rfl)).elim
    · exact ih h

theorem str_mem_setEntry {key : String} {v : Value} {entries : Entries} :
    .str key ∈ (setEntry (.str key) v entries).map Prod.fst := by
  rw [map_fst_setEntry]
  split
  · next hagrees =>
    obtain ⟨e, he, hk⟩ := List.any_eq_true.1 hagrees
    exact List.mem_map.2 ⟨e, he, Value.agrees_str.1 hk⟩
  · exact List.mem_append_right _ (List.mem_singleton.2 rfl)

theorem mem_setEntry_of_mem {k key v : Value} {entries : Entries} (h : k ∈ entries.map Prod.fst) :
    k ∈ (setEntry key v entries).map Prod.fst := by
  rw [map_fst_setEntry]
  split
  · exact h
  · exact List.mem_append_left _ h

/-- All texts that are keys of some entries are keys when these are put together to a mapping. -/
theorem str_mem_foldl_setEntry {key : String} {l entries : Entries}
    (h : .str key ∈ entries.map Prod.fst ∨ .str key ∈ l.map Prod.fst) :
    .str key ∈ (l.foldl (fun entries e => setEntry e.1 e.2 entries) entries).map Prod.fst := by
  induction l generalizing entries with
  | nil => exact h.resolve_right List.not_mem_nil
  | cons e r ih =>
    rcases h with h | h
    · exact ih (.inl (mem_setEntry_of_mem h))
    rcases List.mem_cons.1 h with heq | h
    · exact ih (.inl (heq ▸ str_mem_setEntry))
    · exact ih (.inr h)

/-! ## Checked entries -/

section

variable {name : String} {entries l : Entries}

/-- An entry under a text is checked as it is. -/
theorem mem_checkEntries_of_str (h : checkEntries name entries = .ok l) {key : String} {v : Value}
    (hm : (.str key, v) ∈ entries) : (.str key, v) ∈ l := by
  induction entries generalizing l with
  | nil => cases hm
  | cons e r ih =>
    obtain ⟨k, w⟩ := e
    obtain ⟨⟨s, rest⟩, hboth, rfl⟩ := map_eq_ok.1 h
    obtain ⟨hkey, hrest⟩ := Checked.both_eq_ok.1 hboth
    rcases List.mem_cons.1 hm with heq | hm
    · cases heq
      cases hkey
      exact List.mem_cons_self
    · exact List.mem_cons_of_mem _ (ih hrest hm)

end

/-! ## Held mappings -/

section

variable {name key : String} {v w : Value}

/-- A field that holds a mapping with distinct keys keeps the value at a key that no octets are
taken for. -/
theorem get?_eq_of_mappingField (h : mappingField name v = .ok w)
    (hv : v.everyMap distinctTexts = true) (hkey : v.SpellsAsText key) :
    w.get? key = v.get? key := by
  cases v with
  | map entries =>
    rw [mappingField] at h
    split at h
    · cases h
      rfl
    obtain ⟨l, hl, rfl⟩ := map_eq_ok.1 h
    -- Whatever is found afterwards was there before.
    have hback {u : Value} (hu : (Value.ofEntries l).get? key = some u) :
        (Value.map entries).get? key = some u := by
      obtain ⟨k, s, hm, hs, hstr⟩ := mem_of_foldl_checkEntries hl (Value.mem_of_lookupText hu)
      cases hstr
      obtain rfl : k = .str key := eq_str_of_spelled? (hkey entries rfl _ hm hs) hs
      exact lookupText_of_distinctTexts (Value.test_of_everyMap hv) hm
    cases hu : (Value.map entries).get? key with
    | none =>
      refine Option.eq_none_iff_forall_ne_some.2 fun u hfound => ?_
      cases hu.symm.trans (hback hfound)
    | some u =>
      have hmem := mem_checkEntries_of_str hl (Value.mem_of_lookupText hu)
      have hkeys := List.mem_map_of_mem (f := Prod.fst) hmem
      obtain ⟨u', hu'⟩ := exists_lookupText (str_mem_foldl_setEntry (.inr hkeys))
      cases hu.symm.trans (hback hu')
      exact hu'
  | _ =>
    cases h
    rfl

/-- In a mapping that a field holds no text is a key twice, if that is so in the given one. -/
theorem distinctTexts_of_mappingField (h : mappingField name v = .ok w)
    (hv : v.everyMap distinctTexts = true) : w.everyMap distinctTexts = true := by
  cases v with
  | map entries =>
    rw [mappingField] at h
    split at h
    · cases h
      exact hv
    obtain ⟨l, hl, rfl⟩ := map_eq_ok.1 h
    have hkeys : textKeyed (l.foldl (fun entries e => setEntry e.1 e.2 entries) []) = true :=
      textKeyed_foldl_setEntry (isStr_of_mem_checkEntries hl) rfl
    refine Value.everyMap_map (Bool.and_eq_true_iff.1 hkeys).2 fun e he => ?_
    obtain ⟨k, s, hm, -⟩ := mem_of_foldl_checkEntries hl he
    exact Value.everyMap_of_mem_entries (e := (k, e.2)) hv hm
  | _ =>
    cases h
    exact hv

end

end ClientPlan
