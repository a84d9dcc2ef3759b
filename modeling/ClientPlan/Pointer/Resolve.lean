import ClientPlan.Document.Reference
import ClientPlan.Pointer.Basic

/-!
# Resolving pointers

`resolve` walks from the root of a document along the segments of a reference.  `follow` goes on as
long as the node it reaches is itself a reference, and fails if it meets a reference twice.

An index is read leniently: digits of any script, blanks around it, a sign and underscores between
digits are allowed, and a negative index counts from the end.
-/

set_option autoImplicit false

namespace ClientPlan.Pointer

/-- The item at an index; a negative index counts from the end. -/
def itemAt? (items : List Value) (i : Int) : Option Value :=
  if i < 0 then
    if i.natAbs ≤ items.length then items[items.length - i.natAbs]? else none
  else items[i.toNat]?

/-- The item of a list that a segment names, if it can be read as an index. -/
def itemNamed? (items : List Value) (segment : String) : Option Value :=
  (Text.readInteger segment).bind (itemAt? items)

/-- One step down from `current` along a segment that has been unescaped. -/
def step (ref : String) (current : Value) (segment : String) : Except DocumentError Value :=
  match current with
  | .map entries =>
    match lookupText segment entries with
    | some v => .ok v
    | none => .error (.missingKey ref segment)
  | .list items =>
    match itemNamed? items segment with
    | some v => .ok v
    | none => .error (.badIndex ref segment)
  | v => .error (.notNavigable ref v.kind)

/-- The place that a list of segments leads to. -/
def walk (ref : String) : Value → List String → Except DocumentError Value
  | current, [] => .ok current
  | current, segment :: rest => do walk ref (← step ref current segment) rest

/-- The unescaped segments of a reference, or `none` for a reference that leaves the document. -/
def segments? (ref : String) : Option (List String) :=
  if ref == "#" then some []
  else
    match ref.toList with
    | '#' :: '/' :: r =>
      some ((r.splitOn '/').map fun segment => String.ofList (unescapeChars segment))
    | _ => none

/-- The value that a reference names in a document. -/
def resolve (root : Value) (ref : String) : Except DocumentError Value :=
  match segments? ref with
  | none => .error (.externalReference ref)
  | some segments => walk ref root segments

/-! ## References of what is found -/

theorem mem_of_itemAt? {items : List Value} {i : Int} {v : Value}
    (h : itemAt? items i = some v) : v ∈ items := by
  rw [itemAt?] at h
  split at h
  · split at h
    · exact List.mem_of_getElem? h
    · cases h
  · exact List.mem_of_getElem? h

theorem mem_of_itemNamed? {items : List Value} {segment : String} {v : Value}
    (h : itemNamed? items segment = some v) : v ∈ items := by
  obtain ⟨i, -, hi⟩ := Option.bind_eq_some_iff.1 h
  exact mem_of_itemAt? hi

theorem references_step_subset {ref segment : String} {current v : Value}
    (h : step ref current segment = .ok v) : v.references ⊆ current.references := by
  cases current with
  | map entries =>
    rw [step] at h
    split at h
    · next w hw =>
      cases h
      exact Value.references_subset_of_mem_entries (Value.mem_of_lookupText hw)
    · cases h
  | list items =>
    rw [step] at h
    split at h
    · next w hw =>
      cases h
      exact Value.references_subset_of_mem (mem_of_itemNamed? hw)
    · cases h
  | _ => cases h

theorem references_walk_subset {ref : String} {segments : List String} {current v : Value}
    (h : walk ref current segments = .ok v) : v.references ⊆ current.references := by
  induction segments generalizing current with
  | nil => cases h; exact List.Subset.refl _
  | cons segment rest ih =>
    rw [walk] at h
    cases hs : step ref current segment with
    | error e => rw [hs] at h; cases h
    | ok w =>
      rw [hs] at h
      exact List.Subset.trans (ih h) (references_step_subset hs)

/-- What a reference names holds no references that are not in the document. -/
theorem references_resolve_subset {root v : Value} {ref : String}
    (h : resolve root ref = .ok v) : v.references ⊆ root.references := by
  rw [resolve] at h
  split at h
  · cases h
  · exact references_walk_subset h

/-! ## Chains of references -/

/-- The references that a chain from `node` can meet. -/
def reachable (root node : Value) : List String := root.references ++ node.references

theorem reachable_subset_of_resolve {root node v : Value} {ref : String}
    (h : resolve root ref = .ok v) : reachable root v ⊆ reachable root node := fun _ hx =>
  (List.mem_append.1 hx).elim (List.mem_append_left _)
    fun hx => List.mem_append_left _ (references_resolve_subset h hx)

/-- Follows a chain of references from a node; `seen` holds the references followed so far. -/
def followFrom (root : Value) (seen : List String) (node : Value) (pointer : String) :
    Except Failure (Value × String) :=
  match _hr : node.get? referenceKey with
  | none => .ok (node, pointer)
  | some r =>
    match _hs : r.reference with
    | .error e => .error e
    | .ok ref =>
      if _hn : ref ∈ seen then .error (.document (.circularReference ref))
      else
        match _ht : resolve root ref with
        | .error e => .error (.document e)
        | .ok target => followFrom root (ref :: seen) target ref
termination_by pending (reachable root node) seen
decreasing_by
  refine pending_cons_lt (reachable_subset_of_resolve _ht) (List.subset_cons_self _ _) ?_ _hn
    List.mem_cons_self
  exact List.mem_append_right _
    (Value.mem_references_of_get? (Value.eq_str_of_reference _hs ▸ _hr))

/-- Follows a chain of references from a node to the first node that is no reference, which is
returned with its place: the last reference followed, or `pointer` if there is none. -/
def follow (root node : Value) (pointer : String) : Except Failure (Value × String) :=
  followFrom root [] node pointer

end ClientPlan.Pointer
