import ClientPlan.Proofs.Pointer.Chain

/-!
# How following references ends

From a node a chain of references goes on until it comes to a node that is no reference, to a
reference that cannot be resolved (`Broken`), or to one that it has followed before (`Circular`).
Only one of the three can happen, and `follow` says which: it fails in the last two cases and gives
the end of the chain with the last reference followed otherwise (`follow_settles`).
-/

set_option autoImplicit false

namespace ClientPlan

/-! ## References in text -/

/-- Whether a value that is a reference refers by a text. -/
def Value.refersByText (v : Value) : Bool := (v.get? referenceKey).all Value.isStr

/-- Whether every reference inside a value is a text. -/
def Value.hasTextReferences (v : Value) : Bool :=
  v.everyMap fun entries => (Value.map entries).refersByText

theorem Value.refersByText_of_hasTextReferences {v : Value} (h : v.hasTextReferences = true) :
    v.refersByText = true := by
  cases v with
  | map entries => exact Value.test_of_everyMap h
  | _ => rfl

theorem Value.exists_reference {v r : Value} (h : v.refersByText = true)
    (hr : v.get? referenceKey = some r) : ∃ ref, r = .str ref := by
  rw [refersByText, hr] at h
  cases r with
  | str ref => exact ⟨ref, rfl⟩
  | _ => cases h

namespace Pointer

variable {document node last target : Value} {refs : List String} {ref pointer : String}

theorem refersByText_of_resolve (h : document.hasTextReferences = true)
    (hresolve : resolve document ref = .ok target) : target.refersByText = true := by
  obtain ⟨path, hat⟩ := Position.At.of_resolve hresolve
  exact Value.refersByText_of_hasTextReferences (everyMap_locate? h hat.located)

/-! ## Chains -/

/-- Following the references `refs` one after another leads from a node to another one, which may be
a reference again. -/
inductive Follows (document : Value) : Value → List String → Value → Prop where
  /-- Without a step the chain is where it starts. -/
  | here (node : Value) : Follows document node [] node
  /-- A reference leads where its target does. -/
  | step {node target last : Value} {ref : String} {refs : List String}
      (href : node.get? referenceKey = some (.str ref))
      (htarget : resolve document ref = .ok target) (h : Follows document target refs last) :
      Follows document node (ref :: refs) last

/-- The chain from a node comes to a reference that cannot be resolved. -/
def Broken (document node : Value) : Prop :=
  ∃ refs last ref e, Follows document node refs last ∧
    last.get? referenceKey = some (.str ref) ∧ resolve document ref = .error e

/-- The chain from a node comes to a reference that it has followed before. -/
def Circular (document node : Value) : Prop :=
  ∃ refs last ref, Follows document node refs last ∧
    last.get? referenceKey = some (.str ref) ∧ ref ∈ refs

theorem Follows.concat (h : Follows document node refs last)
    (href : last.get? referenceKey = some (.str ref)) (htarget : resolve document ref = .ok target) :
    Follows document node (refs ++ [ref]) target := by
  induction h with
  | here node => exact .step href htarget (.here target)
  | step href' htarget' _ ih => exact .step href' htarget' (ih href)

/-- A chain that has come somewhere goes on from there to its end. -/
theorem Follows.exists_leads {q : Position} {refs' : List String}
    (h : Follows document node refs last)
    (hleads : Position.Leads document ⟨node, pointer⟩ refs' q) :
    ∃ after place, Position.Leads document ⟨last, place⟩ after q ∧ refs' = refs ++ after := by
  induction h generalizing refs' pointer with
  | here node => exact ⟨refs', pointer, hleads, rfl⟩
  | step href htarget _ ih =>
    cases hleads with
    | here hnone => cases hnone.symm.trans href
    | follow href' htarget' hafter =>
      cases href.symm.trans href'
      cases htarget.symm.trans htarget'
      obtain ⟨after, place, hleads, rfl⟩ := ih hafter
      exact ⟨after, place, hleads, rfl⟩

/-- A chain that ends comes to no reference that cannot be resolved. -/
theorem not_broken_of_leads {q : Position}
    (hleads : Position.Leads document ⟨node, pointer⟩ refs q) : ¬ Broken document node := by
  rintro ⟨refs', last, ref, e, hfollows, href, hresolve⟩
  obtain ⟨after, place, hafter, -⟩ := hfollows.exists_leads hleads
  cases hafter with
  | here hnone => cases hnone.symm.trans href
  | follow href' htarget _ =>
    cases href.symm.trans href'
    cases hresolve.symm.trans htarget

/-- A chain that ends comes to no reference twice. -/
theorem not_circular_of_leads {q : Position}
    (hleads : Position.Leads document ⟨node, pointer⟩ refs q) : ¬ Circular document node := by
  rintro ⟨refs', last, ref, hfollows, href, hmem⟩
  obtain ⟨after, place, hafter, rfl⟩ := hfollows.exists_leads hleads
  cases hafter with
  | here hnone => cases hnone.symm.trans href
  | follow href' _ _ =>
    cases href.symm.trans href'
    obtain ⟨-, -, hapart⟩ := List.nodup_append.1 hleads.nodup
    exact hapart ref hmem ref List.mem_cons_self rfl

/-- A chain ends with the last reference followed, which is resolved to its end. -/
theorem eq_getLastD_of_leads {q : Position}
    (hleads : Position.Leads document ⟨node, pointer⟩ refs q) :
    q.pointer = refs.getLastD pointer ∧ (refs ≠ [] → resolve document q.pointer = .ok q.node) := by
  induction refs generalizing node pointer with
  | nil =>
    cases hleads
    exact ⟨rfl, fun hne => absurd rfl hne⟩
  | cons ref refs ih =>
    cases hleads with
    | follow _ htarget hafter =>
      exact ⟨(ih hafter).1.trans (List.getLastD_cons ..).symm, fun _ => hafter.resolve_end htarget⟩

/-! ## Following to the end -/

/-- From where a chain has come it is followed to its end, or else it has none. -/
theorem ends_followFrom {start : Value} {seen : List String} (hd : document.hasTextReferences = true)
    (hn : node.refersByText = true) (h : Follows document start seen.reverse node) :
    Ends (fun r => ∃ refs, Position.Leads document ⟨node, pointer⟩ refs ⟨r.1, r.2⟩)
      (fun e => (∃ d, e = .document d) ∧ (Broken document start ∨ Circular document start))
      (followFrom document seen node pointer) := by
  fun_induction followFrom document seen node pointer with
  | case1 seen node pointer hnone => exact .ok ⟨[], .here hnone⟩
  | case2 seen node pointer r hr e he =>
    obtain ⟨ref, rfl⟩ := Value.exists_reference hn hr
    cases he
  | case3 seen node pointer r hr ref href hseen =>
    cases Value.eq_str_of_reference href
    exact .error ⟨⟨_, rfl⟩, .inr ⟨_, _, ref, h, hr, List.mem_reverse.2 hseen⟩⟩
  | case4 seen node pointer r hr ref href hseen e he =>
    cases Value.eq_str_of_reference href
    exact .error ⟨⟨_, rfl⟩, .inl ⟨_, _, ref, e, h, hr, he⟩⟩
  | case5 seen node pointer r hr ref href hseen target htarget ih =>
    cases Value.eq_str_of_reference href
    have hnext : Follows document start (ref :: seen).reverse target := by
      rw [List.reverse_cons]
      exact h.concat hr htarget
    refine (ih (refersByText_of_resolve hd htarget) hnext).imp fun r _ hr' => ?_
    obtain ⟨refs, hleads⟩ := hr'
    exact ⟨ref :: refs, .follow hr htarget hleads⟩

/-- Following references ends.  It fails just if the chain comes to a reference that cannot be
resolved or to one twice; otherwise it gives the first node that is no reference, with the pointer
from the start if that is the node itself, and with the last reference followed if not. -/
theorem follow_settles (hd : document.hasTextReferences = true) (hn : node.refersByText = true)
    (pointer : String) :
    ((∃ e, follow document node pointer = .error (.document e)) ↔
      Broken document node ∨ Circular document node) ∧
    (¬ (Broken document node ∨ Circular document node) →
      ∃ refs last, Position.Leads document ⟨node, pointer⟩ refs ⟨last, refs.getLastD pointer⟩ ∧
        follow document node pointer = .ok (last, refs.getLastD pointer) ∧
        (refs ≠ [] → resolve document (refs.getLastD pointer) = .ok last)) := by
  have hends : Ends _ _ (follow document node pointer) := ends_followFrom hd hn (.here node)
  cases hfollow : follow document node pointer with
  | error e =>
    rw [hfollow] at hends
    obtain ⟨⟨d, rfl⟩, hchain⟩ := hends.of_error
    exact ⟨⟨fun _ => hchain, fun _ => ⟨d, rfl⟩⟩, fun hnone => absurd hchain hnone⟩
  | ok r =>
    rw [hfollow] at hends
    cases hends with
    | ok hleads =>
      obtain ⟨last, place⟩ := r
      obtain ⟨refs, hleads⟩ := hleads
      obtain ⟨rfl, hresolve⟩ := eq_getLastD_of_leads hleads
      have hchain : ¬ (Broken document node ∨ Circular document node) :=
        not_or.2 ⟨not_broken_of_leads hleads, not_circular_of_leads hleads⟩
      constructor
      · constructor
        · rintro ⟨e, he⟩
          cases he
        · exact fun h => absurd h hchain
      · exact fun _ => ⟨refs, last, hleads, rfl, hresolve⟩

/-- A reference. -/
def referrer (ref : String) : Value := .ofFields [("$ref", .str ref)]

/-- A document with a chain into a circle and a chain that ends. -/
def crossings : Value := .ofFields [
  ("a", referrer "#/b"), ("b", referrer "#/c"), ("c", referrer "#/b"),
  ("d", referrer "#/e"), ("e", .ofFields [("name", .str "limit")])]

/-- The circle is entered from outside and found, and the other chain is followed to its end. -/
theorem follow_settles_crossings :
    crossings.hasTextReferences = true ∧ (referrer "#/a").refersByText = true ∧
    (referrer "#/d").refersByText = true ∧
    (∃ e, follow crossings (referrer "#/a") "#/x" = .error (.document e)) ∧
    follow crossings (referrer "#/d") "#/x" = .ok (.ofFields [("name", .str "limit")], "#/e") := by
  have hcircle : Circular crossings (referrer "#/a") :=
    ⟨["#/a", "#/b", "#/c"], referrer "#/b", "#/b",
      .step rfl rfl (.step rfl rfl (.step rfl rfl (.here _))), rfl, by decide⟩
  have hleads : Position.Leads crossings ⟨referrer "#/d", "#/x"⟩ ["#/d", "#/e"]
      ⟨.ofFields [("name", .str "limit")], "#/e"⟩ := .follow rfl rfl (.follow rfl rfl (.here rfl))
  have hchain : ¬ (Broken crossings (referrer "#/d") ∨ Circular crossings (referrer "#/d")) :=
    not_or.2 ⟨not_broken_of_leads hleads, not_circular_of_leads hleads⟩
  have hd : crossings.hasTextReferences = true := rfl
  have hentering : (referrer "#/a").refersByText = true := rfl
  have hending : (referrer "#/d").refersByText = true := rfl
  obtain ⟨refs, last, hleads', hfollow, -⟩ := (follow_settles hd hending "#/x").2 hchain
  obtain ⟨rfl, hq⟩ := hleads.unique hleads'
  cases hq
  exact ⟨hd, hentering, hending, (follow_settles hd hentering "#/x").1.2 (.inr hcircle), hfollow⟩

end Pointer

end ClientPlan
