import ClientPlan.OrderedMap
import Mathlib.Data.List.Induction
import Mathlib.Data.List.Nodup

/-!
# What ordered maps hold

The entries of a map and what is looked up in it say the same (`get?_eq_some_iff`).  A list of items
that is gathered into a map, each item starting or growing the value at its key, is grouped by the
key: the keys are in order of first appearance (`keys_foldl_gather`) and the value at a key is grown
from the items of that key alone (`get?_foldl_gather`).
-/

set_option autoImplicit false

namespace ClientPlan.OrderedMap

variable {α β γ κ : Type} [DecidableEq κ]

/-! ## Lists without repetitions -/

theorem eraseDups_concat (l : List κ) (k : κ) :
    (l ++ [k]).eraseDups = l.eraseDups ++ if k ∈ l then [] else [k] := by
  rw [List.eraseDups_append, List.removeAll]
  by_cases h : k ∈ l
  · rw [if_pos h, List.filter_cons_of_neg (by simpa using h)]
    rfl
  · rw [if_neg h, List.filter_cons_of_pos (by simpa using h)]
    rfl

theorem length_eraseDups_le (l : List κ) : l.eraseDups.length ≤ l.length := by
  induction l using List.reverseRecOn with
  | nil => exact Nat.le_refl 0
  | append_singleton l k ih =>
    rw [eraseDups_concat, List.length_append, List.length_append]
    refine Nat.add_le_add ih ?_
    split
    · exact Nat.zero_le 1
    · exact Nat.le_refl 1

/-- Keys that are not distinct get lost. -/
theorem length_eraseDups_lt {l : List κ} (h : ¬ l.Nodup) : l.eraseDups.length < l.length := by
  induction l using List.reverseRecOn with
  | nil => exact absurd List.nodup_nil h
  | append_singleton l k ih =>
    rw [eraseDups_concat, List.length_append, List.length_append]
    by_cases hmem : k ∈ l
    · rw [if_pos hmem]
      exact Nat.lt_succ_of_le (length_eraseDups_le l)
    · have hl : ¬ l.Nodup := by
        intro hl
        refine h (List.nodup_append.2 ⟨hl, List.nodup_singleton k, fun b hb c hc => ?_⟩)
        rw [List.mem_singleton.1 hc]
        exact fun e => hmem (e ▸ hb)
      rw [if_neg hmem]
      exact Nat.add_lt_add_right (ih hl) 1

/-! ## Entries, keys and values -/

theorem lookup_eq_some_iff {k : κ} {v : β} {l : List (κ × β)} (h : (l.map Prod.fst).Nodup) :
    lookup k l = some v ↔ (k, v) ∈ l := by
  induction l with
  | nil => simp [lookup]
  | cons e r ih =>
    obtain ⟨k', v'⟩ := e
    rw [List.map_cons, List.nodup_cons] at h
    rw [lookup, List.mem_cons]
    by_cases hk : k' = k
    · subst hk
      have hn : (k', v) ∉ r := fun hm => h.1 (List.mem_map.2 ⟨_, hm, rfl⟩)
      simp [hn, eq_comm]
    · have hk' : ¬ k = k' := fun e => hk e.symm
      simp [hk, hk', ih h.2]

/-- An entry is in a map exactly when its value is found at its key. -/
theorem get?_eq_some_iff {m : OrderedMap κ β} {k : κ} {v : β} :
    m.get? k = some v ↔ (k, v) ∈ m.entries :=
  lookup_eq_some_iff m.nodup

theorem lookup_append {k : κ} {l l' : List (κ × β)} :
    lookup k (l ++ l') = (lookup k l).or (lookup k l') := by
  induction l with
  | nil => rfl
  | cons e r ih =>
    rw [List.cons_append, lookup, lookup, ih]
    split <;> rfl

theorem mem_keys_iff {m : OrderedMap κ β} {k : κ} : k ∈ m.keys ↔ ∃ v, m.get? k = some v := by
  rw [← contains_iff, contains, Option.isSome_iff_exists]

theorem get?_eq_none_iff {m : OrderedMap κ β} {k : κ} : m.get? k = none ↔ k ∉ m.keys := by
  rw [mem_keys_iff, Option.eq_none_iff_forall_ne_some, not_exists]

theorem mem_values_iff {m : OrderedMap κ β} {v : β} : v ∈ m.values ↔ ∃ k, m.get? k = some v := by
  simp only [values, List.mem_map, get?_eq_some_iff]
  constructor
  · rintro ⟨⟨k, w⟩, hm, rfl⟩
    exact ⟨k, hm⟩
  · rintro ⟨k, hm⟩
    exact ⟨(k, v), hm, rfl⟩

/-- The images of the values are distinct exactly if the images tell the keys apart. -/
theorem nodup_map_values_iff {m : OrderedMap κ β} {f : β → γ} :
    (m.values.map f).Nodup ↔ ∀ k v k' v', m.get? k = some v → m.get? k' = some v' →
      f v = f v' → k = k' := by
  rw [values, List.map_map, List.nodup_map_iff_inj_on (List.Nodup.of_map _ m.nodup)]
  constructor
  · intro h k v k' v' hv hv' heq
    exact congrArg Prod.fst
      (h (k, v) (get?_eq_some_iff.1 hv) (k', v') (get?_eq_some_iff.1 hv') heq)
  · rintro h ⟨k, v⟩ hv ⟨k', v'⟩ hv' heq
    have hk : k = k' := h k v k' v' (get?_eq_some_iff.2 hv) (get?_eq_some_iff.2 hv') heq
    subst hk
    have hsome := (get?_eq_some_iff.2 hv).symm.trans (get?_eq_some_iff.2 hv')
    rw [Option.some.inj hsome]

theorem entries_eq_filterMap (m : OrderedMap κ β) :
    m.entries = m.keys.filterMap fun k => (m.get? k).map (Prod.mk k) := by
  have hsome : ∀ e ∈ m.entries, ((m.get? e.1).map (Prod.mk e.1)) = some e := by
    intro e he
    rw [get?_eq_some_iff.2 he]
    rfl
  rw [keys, List.filterMap_map]
  exact ((List.filterMap_congr hsome).trans List.filterMap_some).symm

/-- Maps with the same keys in the same order and the same values at them are the same. -/
theorem ext_get? {m n : OrderedMap κ β} (hkeys : m.keys = n.keys)
    (h : ∀ k, m.get? k = n.get? k) : m = n := by
  refine ext ?_
  rw [m.entries_eq_filterMap, n.entries_eq_filterMap, hkeys]
  simp only [h]

/-! ## Insertion -/

theorem insertEntry_of_not_mem {k : κ} {v : β} {l : List (κ × β)} (h : k ∉ l.map Prod.fst) :
    insertEntry k v l = l ++ [(k, v)] := by
  induction l with
  | nil => rfl
  | cons e r ih =>
    obtain ⟨k', v'⟩ := e
    rw [List.map_cons, List.mem_cons, not_or] at h
    rw [insertEntry, if_neg fun e => h.1 e.symm, ih h.2]
    rfl

/-- A new key goes to the end. -/
theorem entries_insert_of_not_mem {m : OrderedMap κ β} {k : κ} {v : β} (h : k ∉ m.keys) :
    (m.insert k v).entries = m.entries ++ [(k, v)] :=
  insertEntry_of_not_mem h

theorem mem_keys_insert {m : OrderedMap κ β} {k j : κ} {v : β} :
    j ∈ (m.insert k v).keys ↔ j ∈ m.keys ∨ j = k := by
  rw [keys_insert]
  split
  · next h => exact ⟨.inl, fun hj => hj.elim id fun e => e ▸ h⟩
  · rw [List.mem_append, List.mem_singleton]

/-- What is inserted at a key takes the place of what was inserted there before. -/
theorem insert_insert {m : OrderedMap κ β} {k : κ} {v v' : β} :
    (m.insert k v').insert k v = m.insert k v := by
  refine ext_get? ?_ fun j => ?_
  · have hmem : k ∈ (m.insert k v').keys := mem_keys_insert.2 (.inr rfl)
    rw [keys_insert (m.insert k v'), if_pos hmem, keys_insert, keys_insert]
  · rw [get?_insert, get?_insert, get?_insert]
    split
    · rfl
    · rfl

/-- The map of entries with distinct keys holds just these entries. -/
theorem entries_foldl_insert {l : List (κ × β)} (h : (l.map Prod.fst).Nodup) :
    (l.foldl (fun m e => m.insert e.1 e.2) (empty : OrderedMap κ β)).entries = l := by
  induction l using List.reverseRecOn with
  | nil => rfl
  | append_singleton l e ih =>
    rw [List.map_append, List.map_singleton, List.nodup_append] at h
    have hl := ih h.1
    have hn : e.1 ∉ (l.foldl (fun m e => m.insert e.1 e.2) (empty : OrderedMap κ β)).keys := by
      rw [keys, hl]
      exact fun hm => h.2.2 e.1 hm e.1 (List.mem_singleton_self _) rfl
    rw [List.foldl_append, List.foldl_cons, List.foldl_nil, entries_insert_of_not_mem hn, hl]

/-! ## Gathering -/

/-- One item more: it starts the value at its key or makes the value there grow. -/
def gather (key : α → κ) (start : α → β) (grow : β → α → β) (m : OrderedMap κ β) (a : α) :
    OrderedMap κ β :=
  m.insert (key a) (((m.get? (key a)).map (grow · a)).getD (start a))

variable {key : α → κ} {start : α → β} {grow : β → α → β}

/-- The value that the items at one key make up. -/
def grown (start : α → β) (grow : β → α → β) : List α → Option β
  | [] => none
  | a :: r => some (r.foldl grow (start a))

theorem grown_append_singleton (l : List α) (a : α) :
    grown start grow (l ++ [a]) = some (((grown start grow l).map (grow · a)).getD (start a)) := by
  cases l <;> simp [grown]

/-- The value at a key is grown from the items of that key, in order. -/
theorem get?_foldl_gather (l : List α) (k : κ) :
    (l.foldl (gather key start grow) empty).get? k =
      grown start grow (l.filter fun a => key a = k) := by
  induction l using List.reverseRecOn with
  | nil => rfl
  | append_singleton l a ih =>
    rw [List.foldl_append, List.foldl_cons, List.foldl_nil, gather, get?_insert]
    by_cases h : key a = k
    · subst h
      rw [if_pos rfl, ih, List.filter_append, List.filter_cons_of_pos (by simp), List.filter_nil,
        grown_append_singleton]
    · rw [if_neg h, ih, List.filter_append, List.filter_cons_of_neg (by simpa using h),
        List.filter_nil, List.append_nil]

/-- The keys are in order of their first items. -/
theorem keys_foldl_gather (l : List α) :
    (l.foldl (gather key start grow) empty).keys = (l.map key).eraseDups := by
  induction l using List.reverseRecOn with
  | nil => rfl
  | append_singleton l a ih =>
    rw [List.foldl_append, List.foldl_cons, List.foldl_nil, gather, keys_insert, ih,
      List.map_append, List.map_singleton, eraseDups_concat]
    by_cases h : key a ∈ l.map key
    · rw [if_pos (List.mem_eraseDups.2 h), if_pos h, List.append_nil]
    · rw [if_neg fun hm => h (List.mem_eraseDups.1 hm), if_neg h]

/-! ## Entries by new keys -/

theorem insert_eq_gather (k : α → κ) (v : α → β) (m : OrderedMap κ β) (a : α) :
    m.insert (k a) (v a) = gather k v (fun _ a => v a) m a := by
  rw [gather]
  cases m.get? (k a) <;> rfl

theorem keys_foldl_insert_items (k : α → κ) (v : α → β) (l : List α) :
    (l.foldl (fun m a => m.insert (k a) (v a)) empty).keys = (l.map k).eraseDups := by
  simp only [insert_eq_gather k v]
  exact keys_foldl_gather l

/-- Items under distinct keys are all there is in the map that is made from them. -/
theorem entries_foldl_insert_items {k : α → κ} {v : α → β} {l : List α} (h : (l.map k).Nodup) :
    (l.foldl (fun m a => m.insert (k a) (v a)) (empty : OrderedMap κ β)).entries =
      l.map fun a => (k a, v a) := by
  have hfold := entries_foldl_insert (l := l.map fun a => (k a, v a)) (by rwa [List.map_map])
  rwa [List.foldl_map] at hfold

/-! ## Adding one map to another -/

theorem lookup_eq_none_of_not_mem {k : κ} {l : List (κ × β)} (h : k ∉ l.map Prod.fst) :
    lookup k l = none := by
  rw [← Option.not_isSome_iff_eq_none, lookup_isSome_iff]
  exact h

theorem get?_foldl_insert_list {f : Option β → γ → β} {l : List (κ × γ)}
    (h : (l.map Prod.fst).Nodup) (m : OrderedMap κ β) (k : κ) :
    (l.foldl (fun m e => m.insert e.1 (f (m.get? e.1) e.2)) m).get? k =
      match lookup k l with
      | some v => some (f (m.get? k) v)
      | none => m.get? k := by
  induction l generalizing m with
  | nil => rfl
  | cons e r ih =>
    obtain ⟨k', v⟩ := e
    rw [List.map_cons, List.nodup_cons] at h
    rw [List.foldl_cons, ih h.2, get?_insert, lookup]
    by_cases hk : k' = k
    · subst hk
      rw [lookup_eq_none_of_not_mem h.1, if_pos rfl, if_pos rfl]
    · rw [if_neg hk, if_neg hk]

/-- The entries of one map are added to another, where each value may depend on the one there. -/
theorem get?_foldl_insert (f : Option β → γ → β) (n : OrderedMap κ γ) (m : OrderedMap κ β) (k : κ) :
    (n.entries.foldl (fun m e => m.insert e.1 (f (m.get? e.1) e.2)) m).get? k =
      match n.get? k with
      | some v => some (f (m.get? k) v)
      | none => m.get? k :=
  get?_foldl_insert_list n.nodup m k

theorem keys_foldl_insert_list {f : Option β → γ → β} {l : List (κ × γ)}
    (h : (l.map Prod.fst).Nodup) (m : OrderedMap κ β) :
    (l.foldl (fun m e => m.insert e.1 (f (m.get? e.1) e.2)) m).keys =
      m.keys ++ (l.map Prod.fst).filter (· ∉ m.keys) := by
  induction l generalizing m with
  | nil => exact (List.append_nil _).symm
  | cons e r ih =>
    obtain ⟨k, v⟩ := e
    rw [List.map_cons, List.nodup_cons] at h
    rw [List.foldl_cons, ih h.2, List.map_cons]
    by_cases hk : k ∈ m.keys
    · have hkeys : (m.insert k (f (m.get? k) v)).keys = m.keys := by rw [keys_insert, if_pos hk]
      rw [hkeys, List.filter_cons_of_neg (by simpa using hk)]
    · have hkeys : (m.insert k (f (m.get? k) v)).keys = m.keys ++ [k] := by
        rw [keys_insert, if_neg hk]
      have hrest : (r.map Prod.fst).filter (· ∉ m.keys ++ [k]) =
          (r.map Prod.fst).filter (· ∉ m.keys) := by
        refine List.filter_congr fun j hj => ?_
        have hjk : j ≠ k := fun e => h.1 (e ▸ hj)
        simp [hjk]
      rw [hkeys, hrest, List.filter_cons_of_pos (by simpa using hk), List.append_assoc,
        List.singleton_append]

/-- Adding one map to another puts its new keys after those that are there. -/
theorem keys_foldl_insert (f : Option β → γ → β) (n : OrderedMap κ γ) (m : OrderedMap κ β) :
    (n.entries.foldl (fun m e => m.insert e.1 (f (m.get? e.1) e.2)) m).keys =
      m.keys ++ n.keys.filter (· ∉ m.keys) :=
  keys_foldl_insert_list n.nodup m

/-! ## Applying a function to every value -/

theorem lookup_traverseEntries {ε : Type} {f : κ → β → Except ε γ} {l : List (κ × β)}
    {r : { r : List (κ × γ) // r.map Prod.fst = l.map Prod.fst }}
    (h : traverseEntries f l = .ok r) {k : κ} {w : γ} (hw : lookup k r.1 = some w) :
    ∃ v, lookup k l = some v ∧ f k v = .ok w := by
  induction l with
  | nil =>
    cases h
    cases hw
  | cons e l ih =>
    obtain ⟨k', v⟩ := e
    rw [traverseEntries] at h
    cases hf : f k' v with
    | error e => rw [hf] at h; cases h
    | ok w' =>
      cases ht : traverseEntries f l with
      | error e => rw [hf, ht] at h; cases h
      | ok r' =>
        rw [hf, ht] at h
        cases h
        rw [lookup] at hw ⊢
        by_cases hk : k' = k
        · subst hk
          rw [if_pos rfl] at hw ⊢
          cases hw
          exact ⟨v, rfl, hf⟩
        · rw [if_neg hk] at hw ⊢
          exact ih ht hw

/-- Functions that are the same at all entries are applied alike. -/
theorem traverse_congr {ε : Type} {m : OrderedMap κ β} {f g : κ → β → Except ε γ}
    (h : ∀ k v, m.get? k = some v → f k v = g k v) : m.traverse f = m.traverse g := by
  have hlist : ∀ l : List (κ × β), (∀ e ∈ l, f e.1 e.2 = g e.1 e.2) →
      traverseEntries f l = traverseEntries g l := by
    intro l hl
    induction l with
    | nil => rfl
    | cons e r ih =>
      obtain ⟨he, hr⟩ := List.forall_mem_cons.1 hl
      rw [traverseEntries, traverseEntries, he, ih hr]
  rw [traverse, traverse, hlist m.entries fun e he => h e.1 e.2 (get?_eq_some_iff.2 he)]

/-- A traversal keeps the keys and applies the function to the value at each. -/
theorem traverse_eq_ok {ε : Type} {m : OrderedMap κ β} {f : κ → β → Except ε γ}
    {n : OrderedMap κ γ} (h : m.traverse f = .ok n) :
    n.keys = m.keys ∧
      ∀ k w, n.get? k = some w → ∃ v, m.get? k = some v ∧ f k v = .ok w := by
  unfold traverse at h
  cases ht : traverseEntries f m.entries with
  | error e => rw [ht] at h; cases h
  | ok r =>
    rw [ht] at h
    cases h
    exact ⟨r.2, fun k w hw => lookup_traverseEntries ht hw⟩

omit [DecidableEq κ] in
theorem exists_of_traverseEntries_eq_error {ε : Type} {f : κ → β → Except ε γ} {e : ε}
    {l : List (κ × β)} (h : traverseEntries f l = .error e) :
    ∃ entry ∈ l, f entry.1 entry.2 = .error e := by
  induction l with
  | nil => cases h
  | cons entry l ih =>
    obtain ⟨k, v⟩ := entry
    rw [traverseEntries] at h
    cases hf : f k v with
    | error e' =>
      rw [hf] at h
      cases h
      exact ⟨(k, v), List.mem_cons_self, hf⟩
    | ok w =>
      cases ht : traverseEntries f l with
      | error e' =>
        rw [hf, ht] at h
        cases h
        obtain ⟨entry, hentry, he⟩ := ih ht
        exact ⟨entry, List.mem_cons_of_mem (k, v) hentry, he⟩
      | ok r =>
        rw [hf, ht] at h
        cases h

/-- A traversal fails where the function does at one of the entries. -/
theorem exists_of_traverse_eq_error {ε : Type} {m : OrderedMap κ β} {f : κ → β → Except ε γ}
    {e : ε} (h : m.traverse f = .error e) : ∃ k v, m.get? k = some v ∧ f k v = .error e := by
  unfold traverse at h
  cases ht : traverseEntries f m.entries with
  | error e' =>
    rw [ht] at h
    cases h
    obtain ⟨⟨k, v⟩, hentry, he⟩ := exists_of_traverseEntries_eq_error ht
    exact ⟨k, v, get?_eq_some_iff.2 hentry, he⟩
  | ok r =>
    rw [ht] at h
    cases h

omit [DecidableEq κ] in
theorem exists_traverseEntries {ε : Type} {f : κ → β → Except ε γ} {l : List (κ × β)}
    (h : ∀ e ∈ l, ∃ w, f e.1 e.2 = .ok w) : ∃ r, traverseEntries f l = .ok r := by
  induction l with
  | nil => exact ⟨_, rfl⟩
  | cons e l ih =>
    obtain ⟨w, hw⟩ := h e List.mem_cons_self
    obtain ⟨⟨r, hkeys⟩, hr⟩ := ih fun e' he' => h e' (List.mem_cons_of_mem e he')
    refine ⟨⟨(e.1, w) :: r, by rw [List.map_cons, hkeys, List.map_cons]⟩, ?_⟩
    rw [traverseEntries, hw, hr]
    rfl

/-- A traversal succeeds if the function does at every entry. -/
theorem exists_traverse {ε : Type} {m : OrderedMap κ β} {f : κ → β → Except ε γ}
    (h : ∀ k v, m.get? k = some v → ∃ w, f k v = .ok w) : ∃ n, m.traverse f = .ok n := by
  obtain ⟨⟨r, hkeys⟩, hr⟩ :=
    exists_traverseEntries fun e he => h e.1 e.2 (get?_eq_some_iff.2 he)
  refine ⟨⟨r, hkeys ▸ m.nodup⟩, ?_⟩
  rw [traverse, hr]
  rfl

end ClientPlan.OrderedMap
