import ClientPlan.Proofs.Pointer.Location

/-!
# Chains of references

`Position.Leads` follows references from a position to one that is none.  A chain that ends follows
no reference twice (`Leads.nodup`): what comes after a reference is determined by it.
-/

set_option autoImplicit false

namespace ClientPlan

namespace Position

variable {document : Value} {p q q' : Position} {refs refs' : List String} {ref : String}

/-- The references `refs`, followed one after another, lead from a position to one that is no
reference. -/
inductive Leads (document : Value) : Position → List String → Position → Prop where
  /-- What is no reference leads to itself. -/
  | here {p : Position} (href : p.node.get? referenceKey = none) : Leads document p [] p
  /-- A reference leads where its target does. -/
  | follow {p q : Position} {ref : String} {target : Value} {refs : List String}
      (href : p.node.get? referenceKey = some (.str ref))
      (htarget : Pointer.resolve document ref = .ok target)
      (h : Leads document ⟨target, ref⟩ refs q) : Leads document p (ref :: refs) q

namespace Leads

/-- What a chain ends at is what its pointer resolves to, if that is so where the chain starts. -/
theorem resolve_end (h : Leads document p refs q)
    (hp : Pointer.resolve document p.pointer = .ok p.node) :
    Pointer.resolve document q.pointer = .ok q.node := by
  induction h with
  | here _ => exact hp
  | follow _ htarget _ ih => exact ih htarget

/-- Where a position leads is determined. -/
theorem unique (h : Leads document p refs q) (h' : Leads document p refs' q') :
    refs = refs' ∧ q = q' := by
  induction h generalizing refs' with
  | here href =>
    cases h' with
    | here _ => exact ⟨rfl, rfl⟩
    | follow href' _ _ => cases href.symm.trans href'
  | follow href htarget _ ih =>
    cases h' with
    | here href' => cases href.symm.trans href'
    | follow href' htarget' h' =>
      cases href.symm.trans href'
      cases htarget.symm.trans htarget'
      obtain ⟨rfl, rfl⟩ := ih h'
      exact ⟨rfl, rfl⟩

/-- From a reference on a chain the chain goes on to the same end. -/
theorem exists_suffix (h : Leads document p refs q) (href : ref ∈ refs) :
    ∃ (target : Value) (after : List String), Pointer.resolve document ref = .ok target ∧
      Leads document ⟨target, ref⟩ after q ∧ after.length < refs.length := by
  induction h with
  | here _ => cases href
  | @follow p q ref' target refs _ htarget h ih =>
    rcases List.mem_cons.1 href with rfl | href
    · exact ⟨target, refs, htarget, h, Nat.lt_succ_self _⟩
    · obtain ⟨target', after, htarget', hafter, hlt⟩ := ih href
      exact ⟨target', after, htarget', hafter, Nat.lt_succ_of_lt hlt⟩

/-- No reference is followed twice on a chain that ends. -/
theorem nodup (h : Leads document p refs q) : refs.Nodup := by
  induction h with
  | here _ => exact List.nodup_nil
  | @follow p q ref target refs _ htarget h ih =>
    refine List.nodup_cons.2 ⟨fun hmem => ?_, ih⟩
    -- Otherwise the rest of the chain would be a proper part of itself.
    obtain ⟨target', after, htarget', hafter, hlt⟩ := h.exists_suffix hmem
    cases htarget.symm.trans htarget'
    rw [(h.unique hafter).1] at hlt
    exact Nat.lt_irrefl _ hlt

end Leads

end Position

end ClientPlan
