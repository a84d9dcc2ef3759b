import ClientPlan.Proofs.Pointer.Navigation

/-!
# Pointers built from steps

From the root of a document a sequence of keys and indices leads down to a value (`LeadsTo`).  The
pointer that is built from the steps resolves to that value (`LeadsTo.resolve_join`).  The texts of
its steps can be read back from a pointer (`map_text_eq_of_join_eq`), and in one document a text is
either a key or an index, so different steps that lead somewhere have different pointers.  Main
statement: `join_tells_steps`.
-/

set_option autoImplicit false

namespace ClientPlan.Pointer

variable {root v w : Value} {steps steps' : List Segment}

/-- Steps lead down from a value to another: by the keys of mappings and the indices of lists. -/
inductive LeadsTo : Value → List Segment → Value → Prop where
  /-- Without steps a value leads to itself. -/
  | here (v : Value) : LeadsTo v [] v
  /-- A key of a mapping leads to its value and on from there. -/
  | key {entries : Entries} {key : String} {v w : Value} {steps : List Segment}
      (hv : lookupText key entries = some v) (h : LeadsTo v steps w) :
      LeadsTo (.map entries) (.key (.str key) :: steps) w
  /-- An index of a list leads to the item there and on from it. -/
  | item {items : List Value} {n : Nat} {v w : Value} {steps : List Segment}
      (hv : items[n]? = some v) (h : LeadsTo v steps w) :
      LeadsTo (.list items) (.index n :: steps) w

namespace LeadsTo

/-- The texts of the steps name the value where they lead, without a text that is only taken as an
index. -/
theorem names (h : LeadsTo v steps w) : Names IsIndex v (steps.map Segment.text) w := by
  induction h with
  | here v => exact .here v
  | key hv _ ih => exact .key hv ih
  | item hv _ ih =>
    obtain ⟨hlt, -⟩ := List.getElem?_eq_some_iff.1 hv
    exact .item (isIndex_iff.2 ⟨rfl, hlt⟩) hv ih

/-- The pointer that is built from steps resolves to what they lead to. -/
theorem resolve_join (h : LeadsTo root steps v) (hindices : root.hasIndices = true) :
    resolve root (join "#" steps) = .ok v := by
  have hnames := h.names.isTakenAs hindices
  have hroot : Position.At root ⟨root, "#"⟩ [] := ⟨rfl, rfl⟩
  exact (hroot.join steps (locate?_eq_some_iff.2 hnames)).resolve

/-- Steps that lead somewhere in one value are told by their texts. -/
theorem eq_of_map_text_eq (h : LeadsTo root steps v) (h' : LeadsTo root steps' w)
    (htext : steps.map Segment.text = steps'.map Segment.text) : steps = steps' := by
  induction h generalizing steps' with
  | here v =>
    rw [List.map_nil, eq_comm, List.map_eq_nil_iff] at htext
    exact htext.symm
  | @key entries key u w steps hu h ih =>
    cases h' with
    | here => cases htext
    | @key _ key' u' _ steps' hu' h' =>
      obtain ⟨hkey, hrest⟩ := List.cons.inj htext
      obtain rfl : key = key' := hkey
      cases hu.symm.trans hu'
      rw [ih h' hrest]
  | @item items n u w steps hu h ih =>
    cases h' with
    | here => cases htext
    | @item _ n' u' _ steps' hu' h' =>
      obtain ⟨hindex, hrest⟩ := List.cons.inj htext
      obtain rfl : n = n' := Text.eq_of_toString_eq hindex
      cases hu.symm.trans hu'
      rw [ih h' hrest]

end LeadsTo

/-- The texts of the steps can be read back from the pointer that is built from them. -/
theorem map_text_eq_of_join_eq (h : join "#" steps = join "#" steps') :
    steps.map Segment.text = steps'.map Segment.text := by
  have hroot : segments? "#" = some [] := rfl
  have hsegments := segments?_join hroot steps
  rw [h, segments?_join hroot steps'] at hsegments
  exact (Option.some.inj hsegments).symm

/-- Steps by keys that are texts. -/
def keySteps (keys : List String) : List Segment := keys.map fun key => .key (.str key)

theorem map_text_keySteps (keys : List String) : (keySteps keys).map Segment.text = keys := by
  rw [keySteps, List.map_map]
  exact List.map_id'' (fun _ => rfl) keys

/-- A pointer that is built from the steps to a value resolves to that value, if the document has
indices.  Pointers that are built from texts tell the texts, and pointers that are built from steps
which lead anywhere in one document tell the steps. -/
theorem join_tells_steps :
    (∀ (root v : Value) (steps : List Segment), root.hasIndices = true → LeadsTo root steps v →
      resolve root (join "#" steps) = .ok v) ∧
    (∀ keys keys' : List String, join "#" (keySteps keys) = join "#" (keySteps keys') →
      keys = keys') ∧
    ∀ (root v w : Value) (steps steps' : List Segment), LeadsTo root steps v →
      LeadsTo root steps' w → join "#" steps = join "#" steps' → steps = steps' := by
  refine ⟨fun root v steps hindices h => h.resolve_join hindices, fun keys keys' h => ?_,
    fun root v w steps steps' h h' hjoin => h.eq_of_map_text_eq h' (map_text_eq_of_join_eq hjoin)⟩
  rw [← map_text_keySteps keys, map_text_eq_of_join_eq h, map_text_keySteps]

/-- A document whose keys have to be escaped, with an empty one and one that looks like an index. -/
def escapedDocument : Value := .ofFields [
  ("~1", .list [.str "first", .ofFields [("a/b", .ofFields [("", .str "x"), ("0", .str "y")])]])]

/-- A tilde, a slash and an empty key on the way to a value. -/
theorem join_tells_steps_escaped :
    LeadsTo escapedDocument [.key (.str "~1"), .index 1, .key (.str "a/b"), .key (.str "")]
      (.str "x") ∧
    join "#" [.key (.str "~1"), .index 1, .key (.str "a/b"), .key (.str "")] = "#/~01/1/a~1b/" ∧
    escapedDocument.hasIndices = true ∧
    resolve escapedDocument "#/~01/1/a~1b/" = .ok (.str "x") ∧
    (join "#" (keySteps ["~1"]) ≠ join "#" (keySteps ["/"])) ∧
    join "#" [.key (.str "~1"), .index 1, .key (.str "a/b"), .key (.str "")] ≠
      join "#" [.key (.str "~1"), .index 1, .key (.str "a/b"), .key (.str "0")] := by
  have hleads : LeadsTo escapedDocument
      [.key (.str "~1"), .index 1, .key (.str "a/b"), .key (.str "")] (.str "x") :=
    .key rfl (.item rfl (.key rfl (.key rfl (.here _))))
  have hother : LeadsTo escapedDocument
      [.key (.str "~1"), .index 1, .key (.str "a/b"), .key (.str "0")] (.str "y") :=
    .key rfl (.item rfl (.key rfl (.key rfl (.here _))))
  have hjoin : join "#" [.key (.str "~1"), .index 1, .key (.str "a/b"), .key (.str "")] =
      "#/~01/1/a~1b/" := by decide +kernel
  have hindices : escapedDocument.hasIndices = true := by decide +kernel
  obtain ⟨hresolve, hkeys, hsteps⟩ := join_tells_steps
  refine ⟨hleads, hjoin, hindices, hjoin ▸ hresolve _ _ _ hindices hleads, fun h => ?_, fun h => ?_⟩
  · exact absurd (hkeys _ _ h) (by decide)
  · have htexts := congrArg (List.map Segment.text) (hsteps _ _ _ _ _ hleads hother h)
    exact absurd htexts (by decide)

end ClientPlan.Pointer
