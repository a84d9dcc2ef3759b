import ClientPlan.Schema.Outline

/-!
# The parts of a schema

`Position.children` lists every part of a schema that is a schema itself, in the order in which
schemas are discovered.  The keywords are distinct, so the parts share nothing: together they are
smaller than the schema (`sizeOfAll_children_lt`).
-/

set_option autoImplicit false

namespace ClientPlan

namespace Position

/-- The parts at a keyword whose value is a schema. -/
def partAt (p : Position) (keyword : String) : List Position :=
  match p.node.get? keyword with
  | some v => [⟨v, Pointer.field p.pointer keyword⟩]
  | none => []

/-- The parts at a keyword whose value is a schema if it is a mapping. -/
def mappingAt (p : Position) (keyword : String) : List Position :=
  match mapAt? p.node keyword with
  | some v => [⟨v, Pointer.field p.pointer keyword⟩]
  | none => []

/-- The parts at a keyword whose value is a list of schemas. -/
def membersAt (p : Position) (keyword : String) : List Position :=
  match listAt? p.node keyword with
  | some members => memberPositions keyword p.pointer members
  | none => []

/-- The parts at a keyword whose value maps names to schemas. -/
def entriesAt (p : Position) (keyword : String) : List Position :=
  match p.node.get? keyword with
  | some (.map entries) =>
    entries.map fun (name, v) => ⟨v, Pointer.join p.pointer [keyword, .key name]⟩
  | _ => []

/-- All parts of a schema, in the order of discovery. -/
def children (p : Position) : List Position :=
  p.entriesAt "properties" ++ (p.partAt "items" ++ (p.mappingAt "additionalProperties" ++
    (p.membersAt "allOf" ++ (p.membersAt "anyOf" ++ (p.membersAt "oneOf" ++ p.partAt "not")))))

/-- The size of all nodes of a list of positions. -/
def sizeOfAll (l : List Position) : Nat := Number.total (l.map fun p => p.node.size)

/-- The references in all nodes of a list of positions. -/
def referencesOfAll (l : List Position) : List String := l.flatMap fun p => p.node.references

@[simp] theorem sizeOfAll_nil : sizeOfAll [] = 0 := rfl

@[simp] theorem sizeOfAll_cons (p : Position) (l : List Position) :
    sizeOfAll (p :: l) = p.node.size + sizeOfAll l := rfl

@[simp] theorem sizeOfAll_append (l m : List Position) :
    sizeOfAll (l ++ m) = sizeOfAll l + sizeOfAll m := by
  simp [sizeOfAll]

@[simp] theorem referencesOfAll_append (l m : List Position) :
    referencesOfAll (l ++ m) = referencesOfAll l ++ referencesOfAll m := by
  simp [referencesOfAll]

theorem sizeOfAll_le {l m : List Position} (h : l.Sublist m) : sizeOfAll l ≤ sizeOfAll m := by
  induction h with
  | slnil => exact Nat.le_refl 0
  | cons p _ ih => exact Nat.le_trans ih (Nat.le_add_left _ _)
  | cons_cons p _ ih => exact Nat.add_le_add_left ih _

theorem referencesOfAll_subset {l m : List Position} (h : l.Sublist m) :
    referencesOfAll l ⊆ referencesOfAll m := by
  intro ref href
  obtain ⟨p, hp, href⟩ := List.mem_flatMap.1 href
  exact List.mem_flatMap.2 ⟨p, h.subset hp, href⟩

/-! ## Parts at one keyword -/

/-- The size of the value at a key, or zero. -/
def sizeAt (node : Value) (keyword : String) : Nat := ((node.get? keyword).map Value.size).getD 0

theorem sizeAt_of_get? {node v : Value} {keyword : String} (h : node.get? keyword = some v) :
    sizeAt node keyword = v.size := by
  rw [sizeAt, h]
  rfl

theorem sizeOfAll_partAt (p : Position) (keyword : String) :
    sizeOfAll (p.partAt keyword) ≤ sizeAt p.node keyword := by
  unfold partAt
  split
  · next h => simp [sizeAt_of_get? h]
  · simp

theorem sizeOfAll_mappingAt (p : Position) (keyword : String) :
    sizeOfAll (p.mappingAt keyword) ≤ sizeAt p.node keyword := by
  unfold mappingAt
  split
  · next h => simp [sizeAt_of_get? (get?_of_mapAt? h)]
  · simp

theorem total_map_zipIdx (f : Value → Nat) (l : List Value) (n : Nat) :
    Number.total ((l.zipIdx n).map fun e => f e.1) = Number.total (l.map f) := by
  induction l generalizing n with
  | nil => rfl
  | cons v r ih => simp [ih]

theorem total_map_size_items (l : List Value) :
    Number.total (l.map Value.size) = Value.sizeItems l := by
  induction l with
  | nil => rfl
  | cons v r ih => simp [Value.sizeItems, ih]

theorem sizeOfAll_membersAt (p : Position) (keyword : String) :
    sizeOfAll (p.membersAt keyword) ≤ sizeAt p.node keyword := by
  unfold membersAt
  split
  · next l h =>
    rw [sizeAt_of_get? (get?_of_listAt? h), memberPositions, sizeOfAll, List.map_map, Value.size]
    have : ((fun p : Position => p.node.size) ∘ fun x : Value × Nat =>
        ({ node := x.1, pointer := Pointer.item p.pointer keyword x.2 } : Position)) =
        fun x => x.1.size := rfl
    rw [this, total_map_zipIdx, total_map_size_items]
    omega
  · simp

theorem total_map_size_entries_le (l : Entries) :
    Number.total (l.map fun e => e.2.size) ≤ Value.sizeEntries l := by
  induction l with
  | nil => exact Nat.le_refl 0
  | cons e r ih =>
    obtain ⟨k, v⟩ := e
    simp only [List.map_cons, Number.total_cons, Value.sizeEntries]
    omega

theorem sizeOfAll_entriesAt (p : Position) (keyword : String) :
    sizeOfAll (p.entriesAt keyword) ≤ sizeAt p.node keyword := by
  unfold entriesAt
  split
  · next l h =>
    rw [sizeAt_of_get? h, sizeOfAll, List.map_map, Value.size]
    have : ((fun p : Position => p.node.size) ∘ fun x : Value × Value =>
        ({ node := x.2, pointer := Pointer.join p.pointer [keyword, .key x.1] } : Position)) =
        fun x => x.2.size := rfl
    rw [this]
    have := total_map_size_entries_le l
    omega
  · simp

/-! ## Parts at several keywords -/

theorem total_map_ite_le (s : String) (n : Nat) (f : String → Nat) {keys : List String}
    (h : keys.Nodup) :
    Number.total (keys.map fun k => if s = k then n else f k) ≤ n + Number.total (keys.map f) := by
  induction keys with
  | nil => simp
  | cons k r ih =>
    obtain ⟨hk, hr⟩ := List.nodup_cons.1 h
    simp only [List.map_cons, Number.total_cons]
    by_cases hs : s = k
    · subst hs
      have : (r.map fun k => if s = k then n else f k) = r.map f := by
        refine List.map_congr_left fun k hk' => if_neg ?_
        rintro rfl
        exact hk hk'
      rw [if_pos rfl, this]
      omega
    · rw [if_neg hs]
      have := ih hr
      omega

theorem total_lookupText_le (entries : Entries) {keys : List String} (h : keys.Nodup) :
    Number.total (keys.map fun k => ((lookupText k entries).map Value.size).getD 0) ≤
      Value.sizeEntries entries := by
  induction entries with
  | nil =>
    simp only [lookupText, Option.map_none, Option.getD_none]
    induction keys with
    | nil => exact Nat.le_refl 0
    | cons k r ih =>
      rw [List.map_cons, Number.total_cons, Nat.zero_add]
      exact ih (List.nodup_cons.1 h).2
  | cons e r ih =>
    obtain ⟨k, v⟩ := e
    have hskip : (∀ s, k ≠ .str s) →
        (fun j => ((lookupText j ((k, v) :: r)).map Value.size).getD 0) =
          fun j => ((lookupText j r).map Value.size).getD 0 := by
      intro hk
      funext j
      cases k <;> first | rfl | exact absurd rfl (hk _)
    rw [Value.sizeEntries]
    by_cases hk : ∃ s, k = .str s
    · obtain ⟨s, rfl⟩ := hk
      have hf : (fun j => ((lookupText j ((Value.str s, v) :: r)).map Value.size).getD 0) =
          fun j => if s = j then v.size else ((lookupText j r).map Value.size).getD 0 := by
        funext j
        rw [lookupText]
        by_cases hj : s = j <;> simp [hj]
      rw [hf]
      have := total_map_ite_le s v.size (fun j => ((lookupText j r).map Value.size).getD 0) h
      omega
    · rw [hskip fun s hs => hk ⟨s, hs⟩]
      omega

/-- The values at distinct keys are together smaller than the mapping. -/
theorem total_sizeAt_lt (node : Value) {keys : List String} (h : keys.Nodup) :
    Number.total (keys.map (sizeAt node)) < node.size := by
  have hz (hn : sizeAt node = fun _ => 0) : Number.total (keys.map (sizeAt node)) < node.size := by
    rw [hn, Number.total_map_zero]
    exact Value.size_pos node
  cases node with
  | map entries =>
    have := total_lookupText_le entries h
    rw [Value.size]
    exact Nat.lt_of_le_of_lt this (by omega)
  | _ => exact hz rfl

/-- All parts of a schema are together smaller than the schema. -/
theorem sizeOfAll_children_lt (p : Position) : sizeOfAll p.children < p.node.size := by
  have h := @total_sizeAt_lt p.node
    ["properties", "items", "additionalProperties", "allOf", "anyOf", "oneOf", "not"] (by decide)
  have h1 := sizeOfAll_entriesAt p "properties"
  have h2 := sizeOfAll_partAt p "items"
  have h3 := sizeOfAll_mappingAt p "additionalProperties"
  have h4 := sizeOfAll_membersAt p "allOf"
  have h5 := sizeOfAll_membersAt p "anyOf"
  have h6 := sizeOfAll_membersAt p "oneOf"
  have h7 := sizeOfAll_partAt p "not"
  simp only [List.map_cons, List.map_nil, Number.total_cons, Number.total_nil] at h
  simp only [children, sizeOfAll_append]
  omega

/-- Every part of a schema is a part of its node. -/
theorem isPart_of_mem_children {p q : Position} (h : q ∈ p.children) : q.node.IsPart p.node := by
  simp only [children, List.mem_append] at h
  rcases h with h | h | h | h | h | h | h
  · unfold entriesAt at h
    split at h
    · next l hl =>
      obtain ⟨e, he, rfl⟩ := List.mem_map.1 h
      have hp := isPart_of_get? hl
      exact ⟨Nat.lt_trans (Value.size_lt_of_mem_entries he) hp.1,
        List.Subset.trans (Value.references_subset_of_mem_entries he) hp.2⟩
    · cases h
  · exact partAt_isPart h
  · unfold mappingAt at h
    split at h
    · next hv =>
      rw [List.mem_singleton] at h
      subst h
      exact isPart_of_get? (get?_of_mapAt? hv)
    · cases h
  · exact membersAt_isPart h
  · exact membersAt_isPart h
  · exact membersAt_isPart h
  · exact partAt_isPart h
where
  partAt_isPart {p q : Position} {keyword : String} (h : q ∈ p.partAt keyword) :
      q.node.IsPart p.node := by
    unfold partAt at h
    split at h
    · next hv =>
      rw [List.mem_singleton] at h
      subst h
      exact isPart_of_get? hv
    · cases h
  membersAt_isPart {p q : Position} {keyword : String} (h : q ∈ p.membersAt keyword) :
      q.node.IsPart p.node := by
    unfold membersAt at h
    split at h
    · next hl => exact isPart_of_listAt? hl (mem_of_mem_memberPositions h)
    · cases h

/-- The parts of a schema hold none but its references. -/
theorem referencesOfAll_children_subset (p : Position) :
    referencesOfAll p.children ⊆ p.node.references := by
  intro x hx
  obtain ⟨q, hq, hx⟩ := List.mem_flatMap.1 hx
  exact (isPart_of_mem_children hq).2 hx

end Position

end ClientPlan
