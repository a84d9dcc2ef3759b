import ClientPlan.Proofs.Pointer.Location
import ClientPlan.Proofs.Schema.Encoding

/-!
# Where encoded schemas stand

The structural encoder makes pointers next to nodes, as a discovery does.  `Encoder.Reaches` follows
it from call to call and keeps two positions: the one that it is given, and the one in the document
that this is about.  They are the same until a schema with several types is met.  Its alternatives
are given without a pointer, and what is inside them is given a pointer as if the alternative stood
at the root of the document (`Reaches.stands`).
-/

set_option autoImplicit false

namespace ClientPlan

namespace Encoder

variable {document : Value} {names : SchemaNames} {seen : List String} {start q m : Position}
  {lost : Bool}

/-! ## Schemas with one type -/

theorem setEntry_setEntry {key : String} {v w : Value} {entries : Entries} :
    setEntry (.str key) w (setEntry (.str key) v entries) = setEntry (.str key) w entries := by
  induction entries with
  | nil => rw [setEntry.eq_1, setEntry.eq_1, setEntry.eq_2, if_pos (Value.agrees_str.2 rfl)]
  | cons e r ih =>
    obtain ⟨k, u⟩ := e
    by_cases hk : k.agrees (.str key) = true
    · rw [setEntry, if_pos hk, setEntry, if_pos hk, setEntry, if_pos hk]
    · rw [setEntry, if_neg hk, setEntry, if_neg hk, setEntry, if_neg hk, ih]

theorem withType_withType {v t t' : Value} : withType (withType v t) t' = withType v t' := by
  cases v with
  | map entries => exact congrArg Value.map setEntry_setEntry
  | _ => rfl

theorem get?_withType {v t : Value} {key : String} (h : key ≠ "type") :
    (withType v t).get? key = v.get? key := by
  cases v with
  | map entries => exact lookupText_setEntry h
  | _ => rfl

/-! ## Steps to parts -/

/-- Some steps lead from a node to a part at another keyword than that of the type. -/
inductive StepsTo (node : Value) : List Pointer.Segment → Value → Prop where
  /-- To the value at a keyword. -/
  | field {key : String} {v : Value} (hkey : key ≠ "type") (h : node.get? key = some v) :
      StepsTo node [key] v
  /-- To an item of the list at a keyword. -/
  | item {key : String} {items : List Value} {i : Nat} {v : Value} (hkey : key ≠ "type")
      (h : node.get? key = some (.list items)) (hv : items[i]? = some v) :
      StepsTo node [key, .index i] v

theorem StepsTo.isMap {node v : Value} {steps : List Pointer.Segment} (h : StepsTo node steps v) :
    node.isMap = true := by
  cases h with
  | field hkey h => exact Value.isMap_of_get? h
  | item hkey h hv => exact Value.isMap_of_get? h

theorem StepsTo.ne_nil {node v : Value} {steps : List Pointer.Segment} (h : StepsTo node steps v) :
    steps ≠ [] := by
  cases h <;> exact List.cons_ne_nil _ _

/-- The parts of a schema with another type are those of the schema. -/
theorem StepsTo.of_withType {node t v : Value} {steps : List Pointer.Segment}
    (h : StepsTo (withType node t) steps v) : StepsTo node steps v := by
  cases h with
  | field hkey h => exact .field hkey (get?_withType hkey ▸ h)
  | item hkey h hv => exact .item hkey (get?_withType hkey ▸ h) hv

/-- What steps lead to from a located position is located. -/
theorem StepsTo.at {v : Value} {steps : List Pointer.Segment} (h : StepsTo m.node steps v)
    {path : List String} (hat : m.At document path) (hindices : document.hasIndices = true) :
    ∃ path', Position.At document ⟨v, Pointer.join m.pointer steps⟩ path' := by
  cases h with
  | field hkey h => exact ⟨_, hat.field h⟩
  | @item key items i v hkey h hv =>
    refine ⟨_, hat.join [key, .index i] ?_⟩
    have hcounted := Value.isCounted_of_hasIndices (Value.hasIndices_get? (hat.hasIndices hindices) h)
    exact Position.At.locate?_pair (Position.At.descend?_of_get? h)
      (Pointer.itemNamed?_toString hcounted hv)

/-- Some positions, as the encoder makes them from the pointer of a node, are led to by the same
steps from the node whatever the pointer is. -/
def LedTo (node : Value) (positions : String → List Position) : Prop :=
  ∃ parts : List (List Pointer.Segment × Value), (∀ e ∈ parts, StepsTo node e.1 e.2) ∧
    ∀ pointer, positions pointer = parts.map fun e => ⟨e.2, Pointer.join pointer e.1⟩

theorem LedTo.nil {node : Value} : LedTo node fun _ => [] :=
  ⟨[], fun _ he => (List.not_mem_nil he).elim, fun _ => rfl⟩

theorem LedTo.members {node : Value} {keyword : String} {members : List Value}
    (hkey : keyword ≠ "type") (h : listAt? node keyword = some members) :
    LedTo node fun pointer => memberPositions keyword pointer members := by
  refine ⟨members.zipIdx.map fun e => ([keyword, .index e.2], e.1), ?_, fun pointer => ?_⟩
  · intro e he
    obtain ⟨⟨v, i⟩, hv, rfl⟩ := List.mem_map.1 he
    exact .item hkey (get?_of_listAt? h) (List.mem_zipIdx_iff_getElem?.1 hv)
  · rw [List.map_map]
    rfl

theorem LedTo.optional {node : Value} {keyword : String} {v? : Option Value}
    (hkey : keyword ≠ "type") (h : ∀ v, v? = some v → node.get? keyword = some v) :
    LedTo node fun pointer =>
      (v?.map fun v => Position.mk v (Pointer.field pointer keyword)).toList := by
  refine ⟨v?.toList.map fun v => ([keyword], v), ?_, fun pointer => ?_⟩
  · intro e he
    obtain ⟨v, hv, rfl⟩ := List.mem_map.1 he
    exact .field hkey (h v (Option.mem_toList.1 hv))
  · cases v? <;> rfl

theorem ledTo_parts (node type : Value) :
    LedTo node fun pointer => (outline node type pointer).parts := by
  unfold outline
  split
  · next hl => exact .members (by decide) hl
  · next hl => exact .members (by decide) hl
  · next hl => exact .members (by decide) hl
  · split
    · exact .optional (by decide) fun v hv => hv
    split
    · exact .optional (by decide) fun v hv => get?_of_mapAt? hv
    · exact .nil

/-- Every part of an outline is led to by steps that are the same whatever the pointer is. -/
theorem exists_steps {node type : Value} {pointer : String} {i : Nat} {part : Position}
    (h : (outline node type pointer).parts[i]? = some part) :
    ∃ steps v, StepsTo node steps v ∧ ∀ pointer',
      (outline node type pointer').parts[i]? = some ⟨v, Pointer.join pointer' steps⟩ := by
  obtain ⟨parts, hsteps, hparts⟩ := ledTo_parts node type
  dsimp only at hparts
  rw [hparts, List.getElem?_map] at h
  obtain ⟨e, he, -⟩ := Option.map_eq_some_iff.1 h
  refine ⟨e.1, e.2, hsteps e (List.mem_of_getElem? he), fun pointer' => ?_⟩
  rw [hparts, List.getElem?_map, he]
  rfl

/-! ## From call to call -/

/-- The structural encoder comes from `start` to a call with the references `seen` and the position
`q`, which is about the position `m` of the document.  The pointer is lost if a schema with several
types has been met since a reference was last followed. -/
inductive Reaches (document : Value) (names : SchemaNames) (start : Position) :
    List String → Position → Position → Bool → Prop where
  /-- The first call. -/
  | start : Reaches document names start [] start start false
  /-- A reference that names no collected schema is followed. -/
  | reference {seen : List String} {q m : Position} {lost : Bool} {ref : String} {target : Value}
      (h : Reaches document names start seen q m lost)
      (href : q.node.get? referenceKey = some (.str ref)) (hname : names.get? ref = none)
      (hseen : ref ∉ seen) (htarget : Pointer.resolve document ref = .ok target) :
      Reaches document names start (ref :: seen) ⟨target, ref⟩ ⟨target, ref⟩ false
  /-- One of several types is given without a pointer. -/
  | alternative {seen : List String} {q m : Position} {lost : Bool} {t : Value}
      (h : Reaches document names start seen q m lost) (href : q.node.get? referenceKey = none)
      (hname : nameAt? names q.pointer = none) (hseveral : HasAlternatives q.node)
      (ht : t ∈ alternatives (typeList q.node)) :
      Reaches document names start seen ⟨withType q.node t, ""⟩ m true
  /-- The pointer goes on to a part. -/
  | part {seen : List String} {q m q' m' : Position} {lost : Bool} {i : Nat}
      (h : Reaches document names start seen q m lost) (href : q.node.get? referenceKey = none)
      (hname : nameAt? names q.pointer = none) (hone : ¬ HasAlternatives q.node)
      (hq : (outline q.node (oneType q.node) q.pointer).parts[i]? = some q')
      (hm : (outline q.node (oneType q.node) m.pointer).parts[i]? = some m') :
      Reaches document names start seen q' m' lost

/-- Every call that is made is reached. -/
theorem Reaches.of_calls {seen' : List String} {q' : Position} {followed : Option String}
    (h : Reaches document names start seen q m lost)
    (hc : (recursion document names (seen, q)).Calls followed (seen', q')) :
    ∃ m' lost', Reaches document names start seen' q' m' lost' := by
  rcases calls_recursion hc with ⟨ref, target, href, hname, hseen, htarget, -, heq⟩ |
    ⟨href, hname, -, ⟨hseveral, t, ht, heq⟩ | ⟨hone, part, hpart, heq⟩⟩
  · cases heq
    exact ⟨_, _, h.reference href hname hseen htarget⟩
  · cases heq
    exact ⟨_, _, h.alternative href hname hseveral ht⟩
  · cases heq
    obtain ⟨i, hi⟩ := List.mem_iff_getElem?.1 hpart
    obtain ⟨steps, v, -, hall⟩ := exists_steps hi
    exact ⟨_, _, h.part href hname hone hi (hall m.pointer)⟩

/-- The pointer to what some steps lead to from an alternative, as the encoder makes it. -/
def pointerBelow (steps : List Pointer.Segment) : String :=
  if steps.isEmpty then "" else Pointer.join "#" steps

theorem join_pointerBelow {steps steps' : List Pointer.Segment} (h : steps' ≠ []) :
    Pointer.join (pointerBelow steps) steps' = pointerBelow (steps ++ steps') := by
  have hne : (steps ++ steps').isEmpty = false := by simp [h]
  rw [pointerBelow, pointerBelow, hne, if_neg Bool.false_ne_true]
  cases steps with
  | nil => exact Pointer.join_empty
  | cons s r => exact Pointer.join_join (by decide)

/-- How the position `q` of a call and the position `m` of the document that it is about belong
together. -/
structure Stands (document : Value) (q m : Position) (lost : Bool) : Prop where
  /-- The position of the document is located. -/
  located : m.Located document
  /-- The nodes are the same, but for the type of an alternative. -/
  node : q.node = m.node ∨ lost = true ∧ q.pointer = "" ∧ ∃ t, q.node = withType m.node t
  /-- A pointer that is not lost is the pointer of the document. -/
  kept : lost = false → q = m
  /-- A pointer that is lost goes on as if the schema with several types stood at the root. -/
  below : lost = true → ∃ (base : Position) (path : List String) (steps : List Pointer.Segment),
    HasAlternatives base.node ∧ base.At document path ∧
      m.pointer = Pointer.join base.pointer steps ∧ q.pointer = pointerBelow steps

theorem isMap_of_hasAlternatives {node : Value} (h : HasAlternatives node) : node.isMap = true := by
  rw [HasAlternatives, typeList] at h
  cases hl : listAt? node "type" with
  | none =>
    rw [hl] at h
    exact absurd h (by decide)
  | some types => exact Value.isMap_of_get? (get?_of_listAt? hl)

theorem Stands.alternative (h : Stands document q m lost) (hseveral : HasAlternatives q.node)
    (t : Value) : Stands document ⟨withType q.node t, ""⟩ m true := by
  refine ⟨h.located, .inr ⟨rfl, rfl, ?_⟩, fun hlost => (Bool.noConfusion hlost), fun _ => ?_⟩
  · rcases h.node with heq | ⟨-, -, t', heq⟩
    · exact ⟨t, by rw [heq]⟩
    · exact ⟨t, by rw [heq, withType_withType]⟩
  · rcases h.node with heq | ⟨hlost, hpointer, -⟩
    · rw [heq] at hseveral
      obtain ⟨path, hat⟩ := h.located (isMap_of_hasAlternatives hseveral)
      exact ⟨m, path, [], hseveral, hat, (Pointer.join_nil hat.pointer_ne_empty).symm, rfl⟩
    · -- An alternative of an alternative still stands below the first schema with several types.
      obtain ⟨base, path, steps, hbase, hat, hm, hq⟩ := h.below hlost
      refine ⟨base, path, steps, hbase, hat, hm, ?_⟩
      exact hpointer.symm.trans hq

theorem Stands.part (hindices : document.hasIndices = true) (h : Stands document q m lost)
    {steps : List Pointer.Segment} {v : Value} (hv : StepsTo q.node steps v) :
    Stands document ⟨v, Pointer.join q.pointer steps⟩ ⟨v, Pointer.join m.pointer steps⟩ lost := by
  have hm : StepsTo m.node steps v := by
    rcases h.node with heq | ⟨-, -, t, heq⟩
    · exact heq ▸ hv
    · exact (heq ▸ hv).of_withType
  obtain ⟨path, hat⟩ := h.located hm.isMap
  refine ⟨fun _ => hm.at hat hindices, .inl rfl, ?_, ?_⟩
  · intro hlost
    rw [h.kept hlost]
  · intro hlost
    obtain ⟨base, path', before, hbase, hbaseAt, hpointer, hq⟩ := h.below hlost
    refine ⟨base, path', before ++ steps, hbase, hbaseAt, ?_, ?_⟩
    · rw [hpointer, Pointer.join_join hbaseAt.pointer_ne_empty]
    · rw [hq, join_pointerBelow hv.ne_nil]

/-- Every call is about a position of the document. -/
theorem Reaches.stands (hindices : document.hasIndices = true) (hstart : start.Located document)
    (h : Reaches document names start seen q m lost) : Stands document q m lost := by
  induction h with
  | start => exact ⟨hstart, .inl rfl, fun _ => rfl, fun hlost => Bool.noConfusion hlost⟩
  | reference h href hname hseen htarget ih =>
    -- A reference is itself the pointer of its target, so a lost pointer is found again.
    obtain ⟨path, hat⟩ := Position.At.of_resolve htarget
    exact ⟨hat.isLocated, .inl rfl, fun _ => rfl, fun hlost => Bool.noConfusion hlost⟩
  | alternative h href hname hseveral ht ih => exact ih.alternative hseveral _
  | @part seen q m q' m' lost i h href hname hone hq hm ih =>
    obtain ⟨steps, v, hv, hall⟩ := exists_steps hq
    cases (hall q.pointer).symm.trans hq
    cases (hall m.pointer).symm.trans hm
    exact ih.part hindices hv

end Encoder

end ClientPlan
