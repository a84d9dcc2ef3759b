import ClientPlan.Document.Shown
import ClientPlan.Failure

/-!
# References inside a document

A reference is a text at the key `$ref`.  `Value.references` lists all references inside a value.
Since a document holds finitely many of them, following references ends as soon as none is followed
twice: `pending` counts the references that are still to be followed, and it drops with every one
that is (`pending_cons_lt`).
-/

set_option autoImplicit false

namespace ClientPlan

/-- The key of references. -/
def referenceKey : String := "$ref"

namespace Value

/-- The reference that an entry holds, if it is one. -/
def referenceAt : Value → Value → List String
  | str key, str ref => if key = referenceKey then [ref] else []
  | _, _ => []

mutual

/-- All references inside a value. -/
def references : Value → List String
  | list items => referencesOfItems items
  | map entries => referencesOfEntries entries
  | set members => referencesOfItems members
  | tuple items => referencesOfItems items
  | _ => []

/-- All references inside the values of a list. -/
def referencesOfItems : List Value → List String
  | [] => []
  | v :: r => v.references ++ referencesOfItems r

/-- All references inside the entries of a mapping. -/
def referencesOfEntries : Entries → List String
  | [] => []
  | (k, v) :: r => referenceAt k v ++ v.references ++ referencesOfEntries r

end

theorem references_subset_of_mem {v : Value} {l : List Value} (h : v ∈ l) :
    v.references ⊆ (list l).references := by
  rw [references]
  induction l with
  | nil => cases h
  | cons w r ih =>
    rw [referencesOfItems]
    rcases List.mem_cons.1 h with rfl | h
    · exact List.subset_append_left _ _
    · exact List.Subset.trans (ih h) (List.subset_append_right _ _)

theorem references_subset_of_mem_entries {e : Value × Value} {l : Entries} (h : e ∈ l) :
    e.2.references ⊆ (map l).references := by
  rw [references]
  induction l with
  | nil => cases h
  | cons w r ih =>
    obtain ⟨k, v⟩ := w
    rw [referencesOfEntries]
    rcases List.mem_cons.1 h with rfl | h
    · exact fun x hx => List.mem_append_left _ (List.mem_append_right _ hx)
    · exact List.Subset.trans (ih h) (List.subset_append_right _ _)

/-- The references inside the value at a key are references of the mapping. -/
theorem references_get?_subset {key : String} {v w : Value} (h : v.get? key = some w) :
    w.references ⊆ v.references := by
  cases v with
  | map l => exact references_subset_of_mem_entries (mem_of_lookupText h)
  | _ => cases h

/-- The reference that a node is belongs to the references inside it. -/
theorem mem_references_of_get? {v : Value} {ref : String}
    (h : v.get? referenceKey = some (str ref)) : ref ∈ v.references := by
  cases v with
  | map l =>
    have hmem := mem_of_lookupText h
    rw [references]
    clear h
    induction l with
    | nil => cases hmem
    | cons w r ih =>
      obtain ⟨k, v⟩ := w
      rw [referencesOfEntries]
      rcases List.mem_cons.1 hmem with heq | hmem
      · cases heq
        simp [referenceAt]
      · exact List.mem_append_right _ (ih hmem)
  | _ => cases h

/-- The reference that a value stands for where a reference is needed. -/
def reference : Value → Except Failure String
  | str ref => .ok ref
  | bytes _ => .error (.malformed .referenceOctets)
  | v => .error (.malformed (if v.isKey then .referenceNotText else .notAKey))

/-- The reference that a value stands for where it is looked for in a set first. -/
def soughtReference (v : Value) : Except Failure String :=
  if v.isSought && !v.isKey then .error (.malformed .referenceNotText) else v.reference

/-- The text of a value, if it can be written. -/
def written (v : Value) : Except Failure String :=
  if v.isWritable then .ok v.text else .error (.malformed .badScalar)

theorem eq_str_of_reference {v : Value} {ref : String} (h : v.reference = .ok ref) :
    v = str ref := by
  cases v <;> simp_all [reference]

theorem eq_str_of_soughtReference {v : Value} {ref : String} (h : v.soughtReference = .ok ref) :
    v = str ref := by
  unfold soughtReference at h
  split at h
  · cases h
  · exact eq_str_of_reference h

end Value

/-! ## Counting what is left to follow -/

theorem nodup_eraseDups (l : List String) : l.eraseDups.Nodup := by
  induction h : l.length using Nat.strongRecOn generalizing l with
  | _ n ih =>
    cases l with
    | nil => simp
    | cons a r =>
      rw [List.eraseDups_cons]
      refine List.nodup_cons.2 ⟨?_, ?_⟩
      · rw [List.mem_eraseDups]
        simp
      · refine ih (r.filter fun b => !b == a).length ?_ _ rfl
        have := List.length_filter_le (fun b => !b == a) r
        simp only [List.length_cons] at h
        omega

/-- The members of `refs` that are not in `seen`, each once. -/
def pendingList (refs seen : List String) : List String :=
  (refs.eraseDups).filter fun x => !seen.contains x

/-- How many members of `refs` are not in `seen`. -/
def pending (refs seen : List String) : Nat := (pendingList refs seen).length

theorem mem_pendingList {refs seen : List String} {x : String} :
    x ∈ pendingList refs seen ↔ x ∈ refs ∧ x ∉ seen := by
  simp [pendingList, List.mem_filter, List.mem_eraseDups]

theorem nodup_pendingList (refs seen : List String) : (pendingList refs seen).Nodup :=
  (nodup_eraseDups refs).sublist List.filter_sublist

/-- A smaller refs and more members seen leave no more pending. -/
theorem pending_le {refs refs' seen seen' : List String} (h : refs' ⊆ refs)
    (hs : seen ⊆ seen') : pending refs' seen' ≤ pending refs seen := by
  refine (nodup_pendingList _ _).length_le_of_subset fun x hx => ?_
  rw [mem_pendingList] at hx ⊢
  exact ⟨h hx.1, fun hx' => hx.2 (hs hx')⟩

/-- Once a pending member has been seen, fewer are pending. -/
theorem pending_cons_lt {refs refs' seen seen' : List String} {x : String}
    (h : refs' ⊆ refs) (hs : seen ⊆ seen') (hx : x ∈ refs) (hn : x ∉ seen)
    (hx' : x ∈ seen') : pending refs' seen' < pending refs seen := by
  have hsub : x :: pendingList refs' seen' ⊆ pendingList refs seen := by
    intro y hy
    rcases List.mem_cons.1 hy with rfl | hy
    · exact mem_pendingList.2 ⟨hx, hn⟩
    · rw [mem_pendingList] at hy ⊢
      exact ⟨h hy.1, fun hy' => hy.2 (hs hy')⟩
  have hnd : (x :: pendingList refs' seen').Nodup :=
    List.nodup_cons.2 ⟨fun hm => (mem_pendingList.1 hm).2 hx', nodup_pendingList _ _⟩
  exact hnd.length_le_of_subset hsub

end ClientPlan
