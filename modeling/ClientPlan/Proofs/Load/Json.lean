import ClientPlan.Json.Reader
import ClientPlan.Proofs.Document.Shape
import ClientPlan.Proofs.Outcome

/-!
# Documents in JSON

A value that is read from JSON has text keys, and its collections are lists and mappings.
-/

set_option autoImplicit false

namespace ClientPlan.Json

/-- The keys of some entries are distinct texts, and mappings are members of lists only. -/
def jsonKeyed (entries : Entries) : Bool := textKeyed entries && mappingsInLists entries

/-- A value has the shape of one in JSON. -/
structure Shaped (v : Value) : Prop where
  /-- The keys of every mapping inside are distinct texts. -/
  keyed : v.everyMap jsonKeyed = true
  /-- The value holds mappings as members only if it is a list. -/
  proper : v.isProper = true

theorem Shaped.scalar {v : Value} (h : v.isScalar = true) : Shaped v :=
  ⟨Value.everyMap_of_isScalar h, Value.isProper_of_isScalar h⟩

theorem Shaped.list {items : List Value} (h : ∀ v ∈ items, Shaped v) : Shaped (.list items) :=
  ⟨Value.itemsEveryMap_of_forall fun v hv => (h v hv).keyed, rfl⟩

/-- A mapping of entries under texts has the shape of one in JSON if their values do. -/
theorem Shaped.ofEntries {l : Entries} (h : ∀ e ∈ l, e.1.isStr = true ∧ Shaped e.2) :
    Shaped (.ofEntries l) := by
  have hl : ∀ e ∈ l, e.1.isStr = true := fun e he => (h e he).1
  have hmem : ∀ e ∈ l.foldl (fun entries e => setEntry e.1 e.2 entries) [], e ∈ l := fun e he =>
    (mem_of_mem_foldl_setEntry hl he).resolve_left List.not_mem_nil
  refine ⟨Value.everyMap_map (Bool.and_eq_true_iff.2 ⟨textKeyed_foldl_setEntry hl rfl, ?_⟩) ?_, rfl⟩
  · refine mappingsInLists_iff.2 fun e he => ?_
    obtain ⟨hk, hv⟩ := h e (hmem e he)
    refine ⟨?_, hv.proper⟩
    cases hkey : e.1 with
    | str s => rfl
    | _ =>
      rw [hkey] at hk
      cases hk
  · exact fun e he => (h e (hmem e he)).2.keyed

/-! ## Reading -/

theorem shaped_of_readWord {s : List Char} {v : Value} {r : Rest s}
    (h : readWord s = some (v, r)) : Shaped v := by
  unfold readWord at h
  split at h <;> cases h <;> exact .scalar rfl

theorem shaped_of_number {s : List Char} {v : Value} {n : { n : Nat // 0 < n }}
    (h : number? s = .ok (some (v, n))) : Shaped v := by
  unfold number? at h
  dsimp only at h
  repeat' split at h
  all_goals first
    | (cases h; exact .scalar rfl)
    | cases h

theorem shaped_of_readNumber {s : List Char} {v : Value} {r : Rest s}
    (h : readNumber s = .ok (v, r)) : Shaped v := by
  obtain ⟨found, hfound, h⟩ := bind_eq_ok.1 h
  match found with
  | none => cases h
  | some (w, ⟨n, hn⟩) =>
    dsimp only at h
    split at h
    · cases h
    · cases h
      exact shaped_of_number hfound

/-- What follows the separator after a part is shorter. -/
theorem length_lt_of_separator {s r t : List Char} {c : Char} (hr : r.length < s.length)
    (h : skipSpace r = c :: t) : (skipSpace t).length < s.length :=
  Nat.lt_of_le_of_lt (length_skipSpace_le t) (Nat.lt_trans (length_lt_of_skipSpace h) hr)

mutual

/-- A value that is read has the shape of one in JSON. -/
theorem shaped_of_readValue {room : Nat} {s : List Char} {v : Value} {r : Rest s}
    (h : readValue room s = .ok (v, r)) : Shaped v := by
  unfold readValue at h
  split at h
  · obtain ⟨⟨t, rest⟩, hread, h⟩ := bind_eq_ok.1 h
    cases h
    exact .scalar rfl
  · next t =>
    split at h
    · cases h
    split at h
    · cases h
      exact .list fun v hv => by cases hv
    · obtain ⟨⟨items, rest⟩, hread, h⟩ := bind_eq_ok.1 h
      cases h
      have := length_skipSpace_le t
      exact .list (shaped_of_readItems (fun v hv => by cases hv) hread)
  · next t =>
    split at h
    · cases h
    split at h
    · cases h
      exact .ofEntries (l := []) fun e he => by cases he
    · obtain ⟨⟨entries, rest⟩, hread, h⟩ := bind_eq_ok.1 h
      cases h
      have := length_skipSpace_le t
      exact .ofEntries (shaped_of_readEntries (fun e he => by cases he) hread)
  · split at h
    · next result hword =>
      cases h
      exact shaped_of_readWord hword
    · exact shaped_of_readNumber h
termination_by (s.length, 0)
decreasing_by all_goals subst_vars; simp_wf; omega

theorem shaped_of_readItems {room : Nat} {acc items : List Value} {s : List Char} {r : Rest s}
    (hacc : ∀ v ∈ acc, Shaped v) (h : readItems room acc s = .ok (items, r)) :
    ∀ v ∈ items, Shaped v := by
  unfold readItems at h
  obtain ⟨⟨v, rest, hrest⟩, hread, h⟩ := bind_eq_ok.1 h
  have hnext := List.forall_mem_cons.2 ⟨shaped_of_readValue hread, hacc⟩
  dsimp only at h
  split at h
  · next hcomma =>
    obtain ⟨⟨items, rest⟩, hread, h⟩ := bind_eq_ok.1 h
    cases h
    have := length_lt_of_separator hrest hcomma
    exact shaped_of_readItems hnext hread
  · cases h
    exact fun w hw => hnext w (List.mem_reverse.1 hw)
  · cases h
termination_by (s.length, 1)
decreasing_by all_goals omega

theorem shaped_of_readEntries {room : Nat} {acc entries : Entries} {s : List Char} {r : Rest s}
    (hacc : ∀ e ∈ acc, e.1.isStr = true ∧ Shaped e.2)
    (h : readEntries room acc s = .ok (entries, r)) :
    ∀ e ∈ entries, e.1.isStr = true ∧ Shaped e.2 := by
  unfold readEntries at h
  split at h
  · next t =>
    obtain ⟨⟨key, afterKey, hkey⟩, hread, h⟩ := bind_eq_ok.1 h
    dsimp only at h
    split at h
    · next hcolon =>
      obtain ⟨⟨v, rest, hrest⟩, hvalue, h⟩ := bind_eq_ok.1 h
      have hlt := length_lt_of_separator hkey hcolon
      have hnext : ∀ e ∈ (Value.str key, v) :: acc, e.1.isStr = true ∧ Shaped e.2 :=
        List.forall_mem_cons.2 ⟨⟨rfl, shaped_of_readValue hvalue⟩, hacc⟩
      dsimp only at h
      split at h
      · next hcomma =>
        obtain ⟨⟨entries, rest⟩, hentries, h⟩ := bind_eq_ok.1 h
        cases h
        have := length_lt_of_separator (Nat.lt_trans hrest hlt) hcomma
        exact shaped_of_readEntries hnext hentries
      · cases h
        exact fun e he => hnext e (List.mem_reverse.1 he)
      · cases h
    · cases h
  · cases h
termination_by (s.length, 0)
decreasing_by all_goals subst_vars; simp_wf; omega

end

end ClientPlan.Json
