import ClientPlan.Proofs.Document.TextKeys
import ClientPlan.Proofs.Recursion
import ClientPlan.Schema.Encoder

/-!
# The recursion of the structural encoder

`Encoder.recursion` takes the structural encoder apart into its calls (`computes_encodeFrom`).  Calls
get smaller and remember the references that they follow (`guarded_recursion`).
-/

set_option autoImplicit false

namespace ClientPlan

namespace Encoder

variable {document : Value} {names : SchemaNames} {seen : List String} {p : Position}
  {followed : Option String} {c c' : List String × Position}

/-- What the encoder does at a reference. -/
def atReference (document : Value) (names : SchemaNames) (seen : List String) (r : Value) :
    Body (List String × Position) TypeDescriptor TypeDescriptor :=
  if !r.isKey then .ends (.error (.malformed .notAKey))
  else
    match r.text?.bind names.get? with
    | some name => pure (.schema name)
    | none => do
      let ref ← .ends r.reference
      if ref ∈ seen then pure .any
      else do
        let target ← .ends ((Pointer.resolve document ref).mapError .document)
        .call (some ref) (ref :: seen, ⟨target, ref⟩)

/-- What the encoder does with the parts of a schema. -/
def atParts (seen : List String) :
    Outline → Body (List String × Position) TypeDescriptor TypeDescriptor
  | .union members => return .union (← members.mapM fun m => .call none (seen, m))
  | .only part => .call none (seen, part)
  | .array none => return .array .any
  | .array (some items) => return .array (← .call none (seen, items))
  | .map none => return .map .any
  | .map (some values) => return .map (← .call none (seen, values))
  | .leaf t => .ends t

/-- What the encoder does at a schema without a name that is no reference. -/
def atSchema (seen : List String) (p : Position) :
    Body (List String × Position) TypeDescriptor TypeDescriptor := do
  match alternatives (typeList p.node) with
  | t :: u :: rest =>
    let members ← (t :: u :: rest).mapM fun t => .call none (seen, ⟨withType p.node t, ""⟩)
    return (TypeDescriptor.union members).withNullable (allowsNull p.node)
  | _ =>
    let t ← atParts seen (outline p.node (oneType p.node) p.pointer)
    return t.withNullable (allowsNull p.node)

/-- The final name of what stands at a pointer. -/
def nameAt? (names : SchemaNames) (pointer : String) : Option String :=
  if pointer == "" then none else names.get? pointer

theorem nameAt?_eq_none {pointer : String} (h : names.get? pointer = none) :
    nameAt? names pointer = none := by
  rw [nameAt?, h, ite_self]

/-- What the structural encoder does between its calls; a call has the references that are being
followed and a position. -/
def recursion (document : Value) (names : SchemaNames) :
    Recursion (List String × Position) TypeDescriptor := fun (seen, p) =>
  if !p.node.isMap then pure .any
  else
    match p.node.get? referenceKey with
    | some r => atReference document names seen r
    | none =>
      match nameAt? names p.pointer with
      | some name => pure (.schema name)
      | none => atSchema seen p

/-! ## Calls -/

theorem calls_atReference {r : Value} (h : (atReference document names seen r).Calls followed c) :
    ∃ ref target, r = .str ref ∧ names.get? ref = none ∧ ref ∉ seen ∧
      Pointer.resolve document ref = .ok target ∧ followed = some ref ∧
      c = (ref :: seen, ⟨target, ref⟩) := by
  unfold atReference at h
  split at h
  · cases h
  split at h
  · cases h
  next hname =>
  obtain ⟨ref, href, hrest⟩ := Body.calls_ends_bind h
  cases Value.eq_str_of_reference href
  split at hrest
  · cases hrest
  · next hseen =>
    obtain ⟨target, htarget, hcall⟩ := Body.calls_ends_bind hrest
    obtain ⟨rfl, rfl⟩ := Body.calls_call hcall
    exact ⟨ref, target, rfl, hname, hseen, mapError_eq_ok.1 htarget, rfl, rfl⟩

theorem calls_atParts {o : Outline} (h : (atParts seen o).Calls followed c) :
    followed = none ∧ ∃ m ∈ o.parts, c = (seen, m) := by
  unfold atParts at h
  split at h
  · next members =>
    rcases Body.calls_bind h with h | ⟨types, h⟩
    · obtain ⟨m, hm, h⟩ := Body.calls_mapM h
      obtain ⟨rfl, rfl⟩ := Body.calls_call h
      exact ⟨rfl, m, hm, rfl⟩
    · cases h
  · next part =>
    obtain ⟨rfl, rfl⟩ := Body.calls_call h
    exact ⟨rfl, part, List.mem_cons_self, rfl⟩
  · cases h
  · next items =>
    rcases Body.calls_bind h with h | ⟨t, h⟩
    · obtain ⟨rfl, rfl⟩ := Body.calls_call h
      exact ⟨rfl, items, List.mem_cons_self, rfl⟩
    · cases h
  · cases h
  · next values =>
    rcases Body.calls_bind h with h | ⟨t, h⟩
    · obtain ⟨rfl, rfl⟩ := Body.calls_call h
      exact ⟨rfl, values, List.mem_cons_self, rfl⟩
    · cases h
  · cases h

/-- A schema has several types. -/
def HasAlternatives (node : Value) : Prop := 2 ≤ (alternatives (typeList node)).length

instance (node : Value) : Decidable (HasAlternatives node) :=
  inferInstanceAs (Decidable (2 ≤ _))

theorem hasAlternatives_iff {node : Value} : HasAlternatives node ↔
    ∃ t u rest, alternatives (typeList node) = t :: u :: rest := by
  rw [HasAlternatives]
  match alternatives (typeList node) with
  | [] => simp
  | [_] => simp
  | t :: u :: rest => simp

/-- A schema is encoded by its alternatives if there are several, and otherwise by its parts. -/
theorem calls_atSchema (h : (atSchema seen p).Calls followed c) :
    followed = none ∧
      ((HasAlternatives p.node ∧
          ∃ t ∈ alternatives (typeList p.node), c = (seen, ⟨withType p.node t, ""⟩)) ∨
        ¬ HasAlternatives p.node ∧
          ∃ m ∈ (outline p.node (oneType p.node) p.pointer).parts, c = (seen, m)) := by
  unfold atSchema at h
  split at h
  · next t u rest hl =>
    rcases Body.calls_bind h with h | ⟨members, h⟩
    · obtain ⟨v, hv, h⟩ := Body.calls_mapM h
      obtain ⟨rfl, rfl⟩ := Body.calls_call h
      exact ⟨rfl, .inl ⟨hasAlternatives_iff.2 ⟨t, u, rest, hl⟩, v, hl ▸ hv, rfl⟩⟩
    · cases h
  · next hl =>
    have hone : ¬ HasAlternatives p.node := by
      intro hseveral
      obtain ⟨t, u, rest, hcases⟩ := hasAlternatives_iff.1 hseveral
      exact hl t u rest hcases
    rcases Body.calls_bind h with h | ⟨t, h⟩
    · obtain ⟨rfl, hm⟩ := calls_atParts h
      exact ⟨rfl, .inr ⟨hone, hm⟩⟩
    · cases h

/-- All calls that the encoder makes: it follows a reference, or goes on with something smaller. -/
theorem calls_recursion (h : (recursion document names (seen, p)).Calls followed c) :
    (∃ ref target, p.node.get? referenceKey = some (.str ref) ∧ names.get? ref = none ∧
      ref ∉ seen ∧ Pointer.resolve document ref = .ok target ∧ followed = some ref ∧
      c = (ref :: seen, ⟨target, ref⟩)) ∨
    p.node.get? referenceKey = none ∧ nameAt? names p.pointer = none ∧ followed = none ∧
      ((HasAlternatives p.node ∧
          ∃ t ∈ alternatives (typeList p.node), c = (seen, ⟨withType p.node t, ""⟩)) ∨
        ¬ HasAlternatives p.node ∧
          ∃ m ∈ (outline p.node (oneType p.node) p.pointer).parts, c = (seen, m)) := by
  unfold recursion at h
  dsimp only at h
  split at h
  · cases h
  split at h
  · next r hr =>
    obtain ⟨ref, target, rfl, hcall⟩ := calls_atReference h
    exact .inl ⟨ref, target, hr, hcall⟩
  · next hr =>
    split at h
    · cases h
    · next hname => exact .inr ⟨hr, hname, calls_atSchema h⟩

/-- The encoder remembers the references that it follows, and what it goes on with is smaller. -/
theorem guarded_recursion : (recursion document names).Guarded Prod.fst
    fun c' c => Prod.Lex (· < ·) (· < ·) (measure document c'.2.node c'.1)
      (measure document c.2.node c.1) := by
  refine .of_calls (InvImage.wf (fun c : List String × Position => measure document c.2.node c.1)
    (WellFoundedRelation.wf (α := Nat × Nat))) ?_
  rintro ⟨seen, p⟩ followed c' h
  rcases calls_recursion h with ⟨ref, target, href, -, hseen, htarget, rfl, rfl⟩ |
    ⟨-, -, rfl, ⟨-, t, ht, rfl⟩ | ⟨-, m, hm, rfl⟩⟩
  · refine ⟨?_, List.subset_cons_self _ _, fun ref' heq => ?_⟩
    · exact Prod.Lex.left _ _ (pending_cons_lt (Pointer.reachable_subset_of_resolve htarget)
        (List.subset_cons_self _ _)
        (List.mem_append_right _ (Value.mem_references_of_get? href)) hseen List.mem_cons_self)
    · cases heq
      exact ⟨hseen, List.mem_cons_self⟩
  · refine ⟨?_, List.Subset.refl _, fun ref heq => by cases heq⟩
    exact measure_lt_of_isPart (isPart_of_mem_alternatives rfl ht)
  · refine ⟨?_, List.Subset.refl _, fun ref heq => by cases heq⟩
    exact measure_lt_of_isPart (isPart_of_mem_parts rfl hm)

/-! ## The encoder is computed -/

/-- What calls of the encoder are answered with. -/
abbrev answer (document : Value) (names : SchemaNames) (c : List String × Position) :
    Except Failure TypeDescriptor := encodeFrom document names c.1 c.2

theorem value_atReference {r : Value} (hr : p.node.get? referenceKey = some r) :
    (atReference document names seen r).value (answer document names) =
      encodeFrom document names seen p := by
  rw [encodeFrom, if_neg (by simp [Value.isMap_of_get? hr])]
  symm
  split
  · next r' hr' =>
    rw [hr] at hr'
    cases hr'
    unfold atReference
    split
    · rfl
    -- From here on the two sides ask the same questions in the same order.
    cases r.text?.bind names.get? with
    | some name => rfl
    | none =>
      dsimp only
      rw [Body.value_bind, Body.value_ends]
      split
      · next e he =>
        rw [he]
        rfl
      · next ref href =>
        rw [href]
        dsimp only [bind, Except.bind]
        split
        · rfl
        split
        · next e he =>
          rw [he]
          rfl
        · next target htarget =>
          rw [htarget]
          exact (Body.value_call (f := answer document names) (some ref)
            (ref :: seen, ⟨target, ref⟩)).symm
  · next hnone =>
    rw [hr] at hnone
    cases hnone

theorem encodeFrom_of_name (hmap : p.node.isMap = true) (href : p.node.get? referenceKey = none)
    {name : String} (hname : nameAt? names p.pointer = some name) :
    encodeFrom document names seen p = .ok (.schema name) := by
  rw [encodeFrom, if_neg (by simp [hmap])]
  split
  · next r hr =>
    rw [href] at hr
    cases hr
  · rw [nameAt?] at hname
    rw [hname]

theorem atSchema_of_forall
    (h : ∀ t u rest, alternatives (typeList p.node) = t :: u :: rest → False) :
    atSchema seen p = do
      let t ← atParts seen (outline p.node (oneType p.node) p.pointer)
      return t.withNullable (allowsNull p.node) := by
  unfold atSchema
  split
  · next hl => exact (h _ _ _ hl).elim
  · rfl

theorem value_atSchema (hmap : p.node.isMap = true) (href : p.node.get? referenceKey = none)
    (hname : nameAt? names p.pointer = none) :
    (atSchema seen p).value (answer document names) = encodeFrom document names seen p := by
  rw [encodeFrom, if_neg (by simp [hmap])]
  symm
  split
  · next r hr =>
    rw [href] at hr
    cases hr
  rw [nameAt?] at hname
  rw [hname]
  dsimp only
  split
  · next h =>
    rw [atSchema, h]
    simp [answer]
  · next h =>
    rw [atSchema_of_forall h, Body.value_bind]
    split
    all_goals
      next ho =>
      rw [ho]
      simp [atParts, answer]

/-- The structural encoder is what its recursion computes. -/
theorem computes_encodeFrom : (recursion document names).Computes (answer document names) := by
  rintro ⟨seen, p⟩
  unfold recursion
  dsimp only
  split
  · next hmap =>
    rw [answer, encodeFrom, if_pos hmap]
    rfl
  · next hmap =>
    have hmap : p.node.isMap = true := by simpa using hmap
    split
    · next r hr => exact (value_atReference hr).symm
    · next href =>
      split
      · next name hname => exact encodeFrom_of_name hmap href hname
      · next hname => exact (value_atSchema hmap href hname).symm

end Encoder

end ClientPlan
