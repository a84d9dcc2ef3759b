import ClientPlan.OrderedMap
import ClientPlan.Pointer.Resolve
import ClientPlan.Schema.Outline

/-!
# Encoding schemas as types

An encoder turns a schema node into a type.  It is given the document, in which references are looked
up, and the final names of the schemas that have been collected.

`Encoder.structural` covers the vocabulary of structure: a collected schema is named, a reference to
anything else is encoded as its target, and other schemas as their outline says.  A reference that is
met again below itself is any value, so encoding ends: either the node gets smaller, or a reference
is followed that was not followed before.
-/

set_option autoImplicit false

namespace ClientPlan

/-- The final names of collected schemas by their identities. -/
abbrev SchemaNames := OrderedMap String String

/-- How schema nodes become types, given a document and the names of the collected schemas. -/
abbrev Encoder := Value → SchemaNames → Position → Except Failure TypeDescriptor

namespace Encoder

/-- Whether a schema says that the absent value is allowed. -/
def saysNullable (node : Value) : Bool :=
  match node.get? "nullable" with
  | some (.bool b) => b
  | _ => false

/-- The alternatives of a list of types: all but the absent value's. -/
def alternatives (types : List Value) : List Value := types.filter fun t => !t.isText "null"

/-- The alternatives of the type keyword, if it is a list. -/
def typeList (node : Value) : List Value := (listAt? node "type").getD []

/-- Whether a schema allows the absent value, by itself or by its list of types. -/
def allowsNull (node : Value) : Bool :=
  saysNullable node || (typeList node).any (Value.isText "null")

/-- The one type of a schema: of a list the only alternative, or the absent value. -/
def oneType (node : Value) : Value :=
  match node.get? "type" with
  | some (.list types) =>
    match alternatives types with
    | [t] => t
    | _ => .null
  | some v => v
  | none => .null

/-- The schema with its type keyword replaced. -/
def withType (node type : Value) : Value :=
  match node with
  | .map entries => .map (setEntry (.str "type") type entries)
  | v => v

/-! ## One type of a list -/

theorem size_setEntry_lt {key : String} {v w : Value} {entries : Entries}
    (h : lookupText key entries = some w) (hs : v.size < w.size) :
    Value.sizeEntries (setEntry (.str key) v entries) < Value.sizeEntries entries := by
  induction entries with
  | nil => cases h
  | cons e r ih =>
    obtain ⟨k, u⟩ := e
    rw [setEntry]
    by_cases hk : k.agrees (.str key) = true
    · rw [if_pos hk]
      cases k <;> simp only [Value.agrees, Bool.false_eq_true] at hk
      next s =>
        simp only [beq_iff_eq] at hk
        subst hk
        rw [lookupText, if_pos rfl] at h
        cases h
        rw [Value.sizeEntries, Value.sizeEntries]
        omega
    · rw [if_neg hk]
      have hr : lookupText key r = some w := by
        rw [lookupText.eq_def] at h
        split at h
        · cases h
        · next heq =>
          cases heq
          split at h
          · next hs => subst hs; simp [Value.agrees] at hk
          · exact h
        · next heq => cases heq; exact h
      have := ih hr
      rw [Value.sizeEntries, Value.sizeEntries]
      omega

theorem references_setEntry_subset {key : String} {v w : Value} {entries : Entries}
    (hk : key ≠ referenceKey) (h : lookupText key entries = some w)
    (hs : v.references ⊆ w.references) :
    Value.referencesOfEntries (setEntry (.str key) v entries) ⊆
      Value.referencesOfEntries entries := by
  induction entries with
  | nil => cases h
  | cons e r ih =>
    obtain ⟨k, u⟩ := e
    rw [setEntry]
    by_cases ha : k.agrees (.str key) = true
    · rw [if_pos ha]
      cases k <;> simp only [Value.agrees, Bool.false_eq_true] at ha
      next s =>
        simp only [beq_iff_eq] at ha
        subst ha
        rw [lookupText, if_pos rfl] at h
        cases h
        rw [Value.referencesOfEntries, Value.referencesOfEntries]
        have hr (x : Value) : Value.referenceAt (.str s) x = [] := by
          cases x <;> simp [Value.referenceAt, hk]
        rw [hr, hr]
        intro x hx
        rcases List.mem_append.1 hx with hx | hx
        · exact List.mem_append_left _ (hs hx)
        · exact List.mem_append_right _ hx
    · rw [if_neg ha]
      have hr : lookupText key r = some w := by
        rw [lookupText.eq_def] at h
        split at h
        · cases h
        · next heq =>
          cases heq
          split at h
          · next hs => subst hs; simp [Value.agrees] at ha
          · exact h
        · next heq => cases heq; exact h
      rw [Value.referencesOfEntries, Value.referencesOfEntries]
      intro x hx
      rcases List.mem_append.1 hx with hx | hx
      · exact List.mem_append_left _ hx
      · exact List.mem_append_right _ (ih hr hx)

/-- A schema with one of its types is smaller than with all of them. -/
theorem isPart_withType {node t : Value} (h : t ∈ typeList node) : (withType node t).IsPart node := by
  rw [typeList] at h
  cases hl : listAt? node "type" with
  | none => rw [hl] at h; cases h
  | some types =>
    rw [hl] at h
    have hg := get?_of_listAt? hl
    cases node with
    | map entries =>
      refine ⟨?_, ?_⟩
      · have := size_setEntry_lt hg (Value.size_lt_of_mem h)
        rw [withType, Value.size, Value.size]
        omega
      · rw [withType, Value.references, Value.references]
        exact references_setEntry_subset (by decide) hg (Value.references_subset_of_mem h)
    | _ => cases hg

/-- A schema with one of its alternatives is smaller than with all of them. -/
theorem isPart_of_mem_alternatives {node t : Value} {types : List Value}
    (ht : alternatives (typeList node) = types) (h : t ∈ types) : (withType node t).IsPart node := by
  subst ht
  exact isPart_withType (List.mem_filter.1 h).1

/-! ## The structural encoder -/

/-- The measure of an encoding: what is left to follow, then the size of the node. -/
abbrev measure (document node : Value) (seen : List String) : Nat × Nat :=
  (pending (Pointer.reachable document node) seen, node.size)

theorem reachable_subset_of_isPart {document v node : Value} (h : v.IsPart node) :
    Pointer.reachable document v ⊆ Pointer.reachable document node := fun _ hx =>
  (List.mem_append.1 hx).elim (List.mem_append_left _)
    fun hx => List.mem_append_right _ (h.2 hx)

/-- A part of a node has a smaller measure. -/
theorem measure_lt_of_isPart {document v node : Value} {seen : List String} (h : v.IsPart node) :
    Prod.Lex (· < ·) (· < ·) (measure document v seen) (measure document node seen) := by
  rcases Nat.lt_or_eq_of_le
    (pending_le (reachable_subset_of_isPart h) (List.Subset.refl seen))
    with hlt | heq
  · exact Prod.Lex.left _ _ hlt
  · rw [measure, measure, heq]
    exact Prod.Lex.right _ h.1

/-- Encodes a schema; `seen` holds the references that are being followed. -/
def encodeFrom (document : Value) (names : SchemaNames) (seen : List String) (p : Position) :
    Except Failure TypeDescriptor :=
  if !p.node.isMap then .ok .any
  else
    match _hr : p.node.get? referenceKey with
    | some r =>
      if !r.isKey then .error (.malformed .notAKey)
      else
        match (r.text?.bind names.get?) with
        | some name => .ok (.schema name)
        | none =>
          match _hs : r.reference with
          | .error e => .error e
          | .ok ref =>
            if _hn : ref ∈ seen then .ok .any
            else
              match _ht : Pointer.resolve document ref with
              | .error e => .error (.document e)
              | .ok target => encodeFrom document names (ref :: seen) ⟨target, ref⟩
    | none =>
      match if p.pointer == "" then none else names.get? p.pointer with
      | some name => .ok (.schema name)
      | none =>
        match _ha : alternatives (typeList p.node) with
        | t :: u :: rest => do
          let members ← (t :: u :: rest).attach.mapM fun t =>
            encodeFrom document names seen ⟨withType p.node t.val, ""⟩
          return (TypeDescriptor.union members).withNullable (allowsNull p.node)
        | _ => do
          let t ← match _ho : outline p.node (oneType p.node) p.pointer with
            | .union members => do
              let types ← members.attach.mapM fun m => encodeFrom document names seen m.val
              pure (TypeDescriptor.union types)
            | .only part => encodeFrom document names seen part
            | .array none => pure (TypeDescriptor.array .any)
            | .array (some items) => do
              let t ← encodeFrom document names seen items
              pure (TypeDescriptor.array t)
            | .map none => pure (TypeDescriptor.map .any)
            | .map (some values) => do
              let t ← encodeFrom document names seen values
              pure (TypeDescriptor.map t)
            | .leaf t => t
          return t.withNullable (allowsNull p.node)
termination_by measure document p.node seen
decreasing_by
  · refine Prod.Lex.left _ _ (pending_cons_lt (Pointer.reachable_subset_of_resolve _ht)
      (List.subset_cons_self _ _) ?_ _hn List.mem_cons_self)
    exact List.mem_append_right _
      (Value.mem_references_of_get? (Value.eq_str_of_reference _hs ▸ _hr))
  · exact measure_lt_of_isPart (isPart_of_mem_alternatives _ha t.property)
  · exact measure_lt_of_isPart (isPart_of_mem_parts _ho m.property)
  all_goals exact measure_lt_of_isPart (isPart_of_mem_parts _ho List.mem_cons_self)

/-- Encodes schemas by their structure. -/
def structural : Encoder := fun document names p => encodeFrom document names [] p

end Encoder

end ClientPlan
