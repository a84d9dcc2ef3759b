/-!
# Maps in order of insertion

`OrderedMap α β` is a finite map that remembers the order in which its keys were first inserted.
Inserting a key again keeps its position and replaces its value.  The keys of a map are pairwise
distinct, and the type carries the proof.

* `keys_insert` says what an insertion does to the keys;
* `get?_insert` says what it does to the values.
-/

set_option autoImplicit false

namespace ClientPlan

/-- A finite map whose entries are kept in order of first insertion. -/
structure OrderedMap (α β : Type) where
  /-- The entries in order of first insertion. -/
  entries : List (α × β)
  /-- No key occurs twice. -/
  nodup : (entries.map Prod.fst).Nodup

namespace OrderedMap

variable {α β γ : Type}

/-- The map without entries. -/
def empty : OrderedMap α β := ⟨[], List.nodup_nil⟩

instance : Inhabited (OrderedMap α β) := ⟨empty⟩

/-- The keys in order of first insertion. -/
def keys (m : OrderedMap α β) : List α := m.entries.map Prod.fst

/-- The values in the order of their keys. -/
def values (m : OrderedMap α β) : List β := m.entries.map Prod.snd

/-- The number of entries. -/
def size (m : OrderedMap α β) : Nat := m.entries.length

/-- Whether the map has no entries. -/
def isEmpty (m : OrderedMap α β) : Bool := m.entries.isEmpty

theorem ext {m n : OrderedMap α β} (h : m.entries = n.entries) : m = n := by
  cases m; cases n; cases h; rfl

@[simp] theorem keys_empty : (empty : OrderedMap α β).keys = [] := rfl

@[simp] theorem entries_empty : (empty : OrderedMap α β).entries = [] := rfl

section
variable [DecidableEq α]

instance [DecidableEq β] : DecidableEq (OrderedMap α β) := fun m n =>
  if h : m.entries = n.entries then isTrue (ext h)
  else isFalse fun e => h (congrArg entries e)

/-- The value at a key in a list of entries. -/
def lookup (k : α) : List (α × β) → Option β
  | [] => none
  | (k', v) :: r => if k' = k then some v else lookup k r

/-- The entries with the value at `k` replaced, or with a new entry at the end. -/
def insertEntry (k : α) (v : β) : List (α × β) → List (α × β)
  | [] => [(k, v)]
  | (k', v') :: r => if k' = k then (k', v) :: r else (k', v') :: insertEntry k v r

theorem map_fst_insertEntry (k : α) (v : β) (l : List (α × β)) :
    (insertEntry k v l).map Prod.fst =
      if k ∈ l.map Prod.fst then l.map Prod.fst else l.map Prod.fst ++ [k] := by
  induction l with
  | nil => simp [insertEntry]
  | cons e r ih =>
    obtain ⟨k', v'⟩ := e
    by_cases h : k' = k
    · simp [insertEntry, h]
    · have h' : ¬ k = k' := fun e => h e.symm
      simp only [insertEntry, if_neg h, List.map_cons, ih, List.mem_cons, h', false_or]
      split <;> simp

theorem nodup_insertEntry (k : α) (v : β) {l : List (α × β)} (h : (l.map Prod.fst).Nodup) :
    ((insertEntry k v l).map Prod.fst).Nodup := by
  rw [map_fst_insertEntry]
  split
  · exact h
  · next hk =>
    refine List.nodup_append.2 ⟨h, by simp, fun a ha b hb e => hk ?_⟩
    exact List.mem_singleton.1 hb ▸ e ▸ ha

/-- The value at a key. -/
def get? (m : OrderedMap α β) (k : α) : Option β := lookup k m.entries

/-- Whether a key is present. -/
def contains (m : OrderedMap α β) (k : α) : Bool := (m.get? k).isSome

/-- The map with `v` at `k`: a present key keeps its position, a new key goes to the end. -/
def insert (m : OrderedMap α β) (k : α) (v : β) : OrderedMap α β :=
  ⟨insertEntry k v m.entries, nodup_insertEntry k v m.nodup⟩

/-- The map without the key `k`. -/
def erase (m : OrderedMap α β) (k : α) : OrderedMap α β :=
  ⟨m.entries.filter fun e => e.1 != k,
    m.nodup.sublist (List.filter_sublist.map Prod.fst)⟩

/-- The map of a list of entries: of equal keys the first gives the position, the last the value. -/
def ofList (l : List (α × β)) : OrderedMap α β :=
  l.foldl (fun m e => m.insert e.1 e.2) empty

theorem keys_insert (m : OrderedMap α β) (k : α) (v : β) :
    (m.insert k v).keys = if k ∈ m.keys then m.keys else m.keys ++ [k] :=
  map_fst_insertEntry k v m.entries

theorem lookup_insertEntry (k : α) (v : β) (l : List (α × β)) (j : α) :
    lookup j (insertEntry k v l) = if k = j then some v else lookup j l := by
  induction l with
  | nil => simp [insertEntry, lookup]
  | cons e r ih =>
    obtain ⟨k', v'⟩ := e
    by_cases h : k' = k
    · subst h
      by_cases hj : k' = j <;> simp [insertEntry, lookup, hj]
    · rw [insertEntry, if_neg h]
      by_cases hj : k' = j
      · have : ¬ k = j := fun e => h (hj.trans e.symm)
        simp [lookup, hj, this]
      · simp [lookup, hj, ih]

theorem get?_insert (m : OrderedMap α β) (k : α) (v : β) (j : α) :
    (m.insert k v).get? j = if k = j then some v else m.get? j :=
  lookup_insertEntry k v m.entries j

@[simp] theorem get?_empty (k : α) : (empty : OrderedMap α β).get? k = none := rfl

theorem lookup_filter_ne (k : α) (l : List (α × β)) (j : α) :
    lookup j (l.filter fun e => e.1 != k) = if k = j then none else lookup j l := by
  induction l with
  | nil => simp [lookup]
  | cons e r ih =>
    obtain ⟨k', v'⟩ := e
    by_cases h : k' = k
    · rw [List.filter_cons_of_neg (by simp [h]), ih]
      subst h
      by_cases hj : k' = j <;> simp [lookup, hj]
    · rw [List.filter_cons_of_pos (by simp [h]), lookup, ih, lookup]
      by_cases hj : k' = j
      · have : ¬ k = j := fun e => h (hj.trans e.symm)
        simp [hj, this]
      · simp [hj]

theorem get?_erase (m : OrderedMap α β) (k : α) (j : α) :
    (m.erase k).get? j = if k = j then none else m.get? j :=
  lookup_filter_ne k m.entries j

theorem lookup_isSome_iff (k : α) (l : List (α × β)) :
    (lookup k l).isSome = true ↔ k ∈ l.map Prod.fst := by
  induction l with
  | nil => simp [lookup]
  | cons e r ih =>
    obtain ⟨k', v'⟩ := e
    by_cases h : k' = k
    · simp [lookup, h]
    · have h' : ¬ k = k' := fun e => h e.symm
      simp [lookup, h, h', ih]

/-- A key is present exactly when it is among the keys. -/
theorem contains_iff (m : OrderedMap α β) (k : α) : m.contains k = true ↔ k ∈ m.keys :=
  lookup_isSome_iff k m.entries

end

/-- Applies a function that may fail to each entry in order; the keys stay. -/
def traverseEntries {ε : Type} (f : α → β → Except ε γ) :
    (l : List (α × β)) → Except ε { r : List (α × γ) // r.map Prod.fst = l.map Prod.fst }
  | [] => .ok ⟨[], rfl⟩
  | (k, v) :: l => do
    let w ← f k v
    let ⟨r, h⟩ ← traverseEntries f l
    return ⟨(k, w) :: r, by simp [h]⟩

/-- Applies a function that may fail to each value in order; the keys and their order stay. -/
def traverse {ε : Type} (m : OrderedMap α β) (f : α → β → Except ε γ) :
    Except ε (OrderedMap α γ) := do
  let ⟨r, h⟩ ← traverseEntries f m.entries
  return ⟨r, by rw [h]; exact m.nodup⟩

end OrderedMap

end ClientPlan
