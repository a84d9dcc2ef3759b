import ClientPlan.Pointer.Resolve
import ClientPlan.Schema.Outline

/-!
# Declared properties

The properties of a schema are those that the members of `allOf` declare, references followed, and
then its own.  A property that is declared again keeps its first position and gets its last
declaration.

References and members on the way are remembered in `seen` and contribute nothing when they are met
again, so flattening ends.
-/

set_option autoImplicit false

namespace ClientPlan

/-- A declared property. -/
structure Declaration where
  /-- The name, which may be no text. -/
  name : Value
  /-- The schema. -/
  position : Position
  /-- Whether the declaring node requires the property. -/
  required : Bool

namespace Declaration

/-- The declarations with one more: a declaration of the same name is replaced in its position. -/
def set (d : Declaration) : List Declaration → List Declaration
  | [] => [d]
  | e :: r => if e.name.agrees d.name then d :: r else e :: set d r

/-- The declarations in order of their first positions, each being the last of its name. -/
def merge (l : List Declaration) : List Declaration := l.foldl (fun acc d => d.set acc) []

/-- The names that a node requires. -/
def requiredNames (node : Value) : Except Failure (List Value) := do
  let names ← membersOf (node.get? "required")
  if names.all Value.isKey then return names else .error (.malformed .notAKey)

/-- The properties that a node declares by itself. -/
def own (p : Position) (required : List Value) : List Declaration :=
  match p.node.get? "properties" with
  | some (.map entries) =>
    entries.map fun (name, v) =>
      ⟨name, ⟨v, Pointer.join p.pointer ["properties", .key name]⟩, required.any (·.agrees name)⟩
  | _ => []

/-- The members of `allOf`.  Only the items of a list can be schemas. -/
def allOfMembers (node : Value) : Except Failure (List Value) :=
  match listAt? node "allOf" with
  | some items => .ok items
  | none => (membersOf (node.get? "allOf")).map fun _ => []

theorem isPart_of_mem_allOfMembers {node v : Value} {members : List Value}
    (h : allOfMembers node = .ok members) (hv : v ∈ members) : v.IsPart node := by
  unfold allOfMembers at h
  split at h
  · next hl => cases h; exact isPart_of_listAt? hl hv
  · cases hm : membersOf (node.get? "allOf") with
    | error e => rw [hm] at h; cases h
    | ok l => rw [hm] at h; cases h; cases hv

/-- The measure of flattening: what is left to follow, then the size of the node. -/
abbrev measure (document node : Value) (seen : List String) : Nat × Nat :=
  (pending (Pointer.reachable document node) seen, node.size)

theorem measure_lt_of_isPart {document v node : Value} {seen seen' : List String}
    (h : v.IsPart node) (hs : seen ⊆ seen') :
    Prod.Lex (· < ·) (· < ·) (measure document v seen') (measure document node seen) := by
  have hsub : Pointer.reachable document v ⊆ Pointer.reachable document node := fun _ hx =>
    (List.mem_append.1 hx).elim (List.mem_append_left _)
      fun hx => List.mem_append_right _ (h.2 hx)
  rcases Nat.lt_or_eq_of_le (pending_le hsub hs) with hlt | heq
  · exact Prod.Lex.left _ _ hlt
  · rw [measure, measure, heq]
    exact Prod.Lex.right _ h.1

theorem measure_lt_of_reference {document target node : Value} {seen : List String} {ref : String}
    (ht : Pointer.resolve document ref = .ok target) (hr : ref ∈ node.references)
    (hn : ref ∉ seen) :
    Prod.Lex (· < ·) (· < ·) (measure document target (ref :: seen)) (measure document node seen) :=
  Prod.Lex.left _ _ (pending_cons_lt (Pointer.reachable_subset_of_resolve ht)
    (List.subset_cons_self _ _) (List.mem_append_right _ hr) hn List.mem_cons_self)

theorem mem_references {node r : Value} {ref : String} (hr : node.get? referenceKey = some r)
    (hs : r.soughtReference = .ok ref) : ref ∈ node.references :=
  Value.mem_references_of_get? (Value.eq_str_of_soughtReference hs ▸ hr)

/-- The properties that a node declares, with those of the members of `allOf`; `seen` holds the
references and members on the way to the node. -/
def collect (document : Value) (seen : List String) (p : Position) :
    Except Failure (List Declaration) :=
  if !p.node.isMap then .ok []
  else
    match _hr : p.node.get? referenceKey with
    | some r =>
      match _hs : r.soughtReference with
      | .error e => .error e
      | .ok ref =>
        if _hn : ref ∈ seen then .ok []
        else
          match _ht : Pointer.resolve document ref with
          | .error e => .error (.document e)
          | .ok target => collect document (ref :: seen) ⟨target, ref⟩
    | none =>
      match _hm : allOfMembers p.node with
      | .error e => .error e
      | .ok members => do
        let inherited ← members.attach.zipIdx.mapM fun (m, i) =>
          match _hr : m.val.get? referenceKey with
          | none =>
            let pointer := Pointer.item p.pointer "allOf" i
            collect document (pointer :: seen) ⟨m.val, pointer⟩
          | some r =>
            match _hs : r.soughtReference with
            | .error e => .error e
            | .ok ref =>
              if _hn : ref ∈ seen then .ok []
              else
                match _ht : Pointer.resolve document ref with
                | .error e => .error (.document e)
                | .ok target => collect document (ref :: seen) ⟨target, ref⟩
        let required ← requiredNames p.node
        return merge (inherited.flatten ++ own p required)
termination_by measure document p.node seen
decreasing_by
  · exact measure_lt_of_reference _ht (mem_references _hr _hs) _hn
  · exact measure_lt_of_isPart (isPart_of_mem_allOfMembers _hm m.property)
      (List.subset_cons_self _ _)
  · have hp := isPart_of_mem_allOfMembers _hm m.property
    exact measure_lt_of_reference _ht (hp.2 (mem_references _hr _hs)) _hn

/-- The properties of a schema. -/
def ofSchema (document : Value) (p : Position) : Except Failure (List Declaration) :=
  collect document [] p

end Declaration

end ClientPlan
