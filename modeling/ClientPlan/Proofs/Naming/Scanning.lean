import ClientPlan.Proofs.Naming.Boundaries

/-!
# Scanning for words

A scan cuts a text greedily: it passes over separators, takes the capitals that follow and then the
lowercase letters and digits behind them, and what it has taken is a word.  Tokens are the words of
such a scan, in lower case (`tokens_eq_scanned`).

Tokens lose nothing of a text but its separators and its case, and a name in function case has the
tokens of the text that it is made of (`tokens_lossless`).
-/

set_option autoImplicit false

namespace ClientPlan.Naming

variable {c : Char} {r cs : List Char}

/-! ## Characters -/

/-- A letter or digit is either a capital or a character that a capital does not continue. -/
theorem isAlphanum_eq (c : Char) : c.isAlphanum = (c.isUpper || isLower c) := Bool.or_assoc ..

theorem isSeparator_eq (c : Char) : isSeparator c = (!c.isUpper && !isLower c) := by
  rw [isSeparator, isAlphanum_eq, Bool.not_or]

theorem isUpper_of_isLower (h : isLower c = true) : c.isUpper = false :=
  forall_isAlphanum (P := fun c => isLower c = true → c.isUpper = false) (by decide)
    (isAlphanum_of_isLower h) h

/-! ## Runs -/

/-- The capitals that a text begins with and the lowercase letters and digits behind them. -/
def run (cs : List Char) : List Char :=
  cs.takeWhile Char.isUpper ++ (cs.dropWhile Char.isUpper).takeWhile isLower

/-- What comes after the run that a text begins with. -/
def afterRun (cs : List Char) : List Char := (cs.dropWhile Char.isUpper).dropWhile isLower

theorem run_append_afterRun (cs : List Char) : run cs ++ afterRun cs = cs := by
  rw [run, afterRun, List.append_assoc, List.takeWhile_append_dropWhile,
    List.takeWhile_append_dropWhile]

theorem run_cons_of_isUpper (h : c.isUpper = true) (r : List Char) : run (c :: r) = c :: run r := by
  rw [run, List.takeWhile_cons_of_pos h, List.dropWhile_cons_of_pos h, List.cons_append, run]

theorem afterRun_cons_of_isUpper (h : c.isUpper = true) (r : List Char) :
    afterRun (c :: r) = afterRun r := by
  rw [afterRun, List.dropWhile_cons_of_pos h, afterRun]

theorem run_cons_of_isLower (h : isLower c = true) (r : List Char) :
    run (c :: r) = c :: r.takeWhile isLower := by
  have hc : ¬ c.isUpper = true := Bool.eq_false_iff.1 (isUpper_of_isLower h)
  rw [run, List.takeWhile_cons_of_neg hc, List.dropWhile_cons_of_neg hc, List.nil_append,
    List.takeWhile_cons_of_pos h]

theorem afterRun_cons_of_isLower (h : isLower c = true) (r : List Char) :
    afterRun (c :: r) = r.dropWhile isLower := by
  have hc : ¬ c.isUpper = true := Bool.eq_false_iff.1 (isUpper_of_isLower h)
  rw [afterRun, List.dropWhile_cons_of_neg hc, List.dropWhile_cons_of_pos h]

/-- Only a text that begins with a letter or digit begins with a run. -/
theorem run_ne_nil (h : c.isAlphanum = true) (r : List Char) : run (c :: r) ≠ [] := by
  rw [isAlphanum_eq] at h
  rcases Bool.or_eq_true_iff.1 h with hupper | hlower
  · rw [run_cons_of_isUpper hupper]
    exact List.cons_ne_nil _ _
  · rw [run_cons_of_isLower hlower]
    exact List.cons_ne_nil _ _

theorem run_cons_of_isSeparator (h : isSeparator c = true) (r : List Char) :
    run (c :: r) = [] ∧ afterRun (c :: r) = c :: r := by
  rw [isSeparator_eq, Bool.and_eq_true, Bool.not_eq_true', Bool.not_eq_true'] at h
  have hupper : ¬ c.isUpper = true := Bool.eq_false_iff.1 h.1
  have hlower : ¬ isLower c = true := Bool.eq_false_iff.1 h.2
  rw [run, afterRun, List.takeWhile_cons_of_neg hupper, List.dropWhile_cons_of_neg hupper,
    List.takeWhile_cons_of_neg hlower, List.dropWhile_cons_of_neg hlower]
  exact ⟨rfl, rfl⟩

/-! ## Scans -/

/-- Behind the separators in front of a text there is a letter or digit, if anything. -/
theorem isAlphanum_of_dropWhile (h : cs.dropWhile isSeparator = c :: r) : c.isAlphanum = true := by
  have hhead := List.head?_dropWhile_not isSeparator cs
  rw [h] at hhead
  simpa [isSeparator] using hhead

theorem length_afterRun_lt (h : cs.dropWhile isSeparator = c :: r) :
    (afterRun (c :: r)).length < cs.length := by
  have hrun := List.length_pos_iff.2 (run_ne_nil (isAlphanum_of_dropWhile h) r)
  have hwhole := congrArg List.length (run_append_afterRun (c :: r))
  have hle := (List.dropWhile_suffix isSeparator (l := cs)).length_le
  rw [List.length_append] at hwhole
  rw [h] at hle
  omega

/-- The words that a scan takes from a text, in lower case. -/
def scanned (cs : List Char) : List (List Char) :=
  match _h : cs.dropWhile isSeparator with
  | [] => []
  | c :: r => (run (c :: r)).map Char.toLower :: scanned (afterRun (c :: r))
termination_by cs.length
decreasing_by exact length_afterRun_lt (by assumption)

/-- Tokens are read off one character after another: a letter or digit goes on with the token of the
next character or is one by itself. -/
theorem tokens_cons_of_isAlphanum (h : c.isAlphanum = true) (r : List Char) :
    tokens (c :: r) =
      if r.head?.any (joins c) then (c.toLower :: (tokens r).headD []) :: (tokens r).tail
      else [c.toLower] :: tokens r :=
  tokens_run_append (r := []) h (List.forall_mem_nil _)

/-- The first token of a text that begins with a letter or digit is the run that it begins with. -/
theorem tokens_eq_run (h : c.isAlphanum = true) :
    tokens (c :: r) = (run (c :: r)).map Char.toLower :: tokens (afterRun (c :: r)) := by
  induction r generalizing c with
  | nil =>
    rw [tokens_cons_of_isAlphanum h, List.head?_nil, Option.any_none, if_neg Bool.false_ne_true]
    rw [isAlphanum_eq] at h
    rcases Bool.or_eq_true_iff.1 h with hupper | hlower
    · rw [run_cons_of_isUpper hupper, afterRun_cons_of_isUpper hupper]
      rfl
    · rw [run_cons_of_isLower hlower, afterRun_cons_of_isLower hlower]
      rfl
  | cons d r ih =>
    rw [tokens_cons_of_isAlphanum h, List.head?_cons, Option.any_some]
    rw [isAlphanum_eq] at h
    rcases Bool.or_eq_true_iff.1 h with hupper | hlower
    · -- A capital is followed by the rest of its run, if any letter or digit comes next.
      have hc : ¬ isLower c = true := fun hc =>
        Bool.false_ne_true ((isUpper_of_isLower hc).symm.trans hupper)
      rw [run_cons_of_isUpper hupper, afterRun_cons_of_isUpper hupper, joins, if_neg hc]
      by_cases hd : d.isAlphanum = true
      · rw [if_pos hd, ih hd]
        rfl
      · have hsep : isSeparator d = true := by
          rw [isSeparator, Bool.not_eq_true']
          exact Bool.eq_false_iff.2 hd
        obtain ⟨hrun, hafter⟩ := run_cons_of_isSeparator hsep r
        rw [if_neg hd, hrun, hafter]
        rfl
    · rw [run_cons_of_isLower hlower, afterRun_cons_of_isLower hlower, joins, if_pos hlower]
      by_cases hd : isLower d = true
      · rw [if_pos hd, ih (isAlphanum_of_isLower hd), run_cons_of_isLower hd,
          afterRun_cons_of_isLower hd, List.takeWhile_cons_of_pos hd, List.dropWhile_cons_of_pos hd]
        rfl
      · rw [if_neg hd, List.takeWhile_cons_of_neg hd, List.dropWhile_cons_of_neg hd]
        rfl

/-- Separators in front of a text do not matter. -/
theorem tokens_dropWhile_isSeparator (cs : List Char) :
    tokens (cs.dropWhile isSeparator) = tokens cs := by
  induction cs with
  | nil => rfl
  | cons c r ih =>
    by_cases h : isSeparator c = true
    · rw [List.dropWhile_cons_of_pos h, ih, tokens_cons_separator h]
    · rw [List.dropWhile_cons_of_neg h]

/-- Tokens are the words that a scan takes. -/
theorem tokens_eq_scanned (cs : List Char) : tokens cs = scanned cs := by
  fun_induction scanned cs with
  | case1 cs h => rw [← tokens_dropWhile_isSeparator, h, tokens_nil]
  | case2 cs c r h ih =>
    rw [← ih, ← tokens_eq_run (isAlphanum_of_dropWhile h), ← h, tokens_dropWhile_isSeparator]

/-! ## What is kept -/

/-- The tokens of any text are what a greedy scan takes from it.  They are words of lowercase letters
and digits, hold all letters and digits of the text in their order and in lower case, and are read
back from the name that joins them; so a function name is a fixed point of function case and has the
type name of the text. -/
theorem tokens_lossless (s : String) :
    tokens s.toList = scanned s.toList ∧
    (∀ w ∈ tokens s.toList, IsWord w) ∧
    (tokens s.toList).flatten = (s.toList.filter Char.isAlphanum).map Char.toLower ∧
    tokens (joined (tokens s.toList)) = tokens s.toList ∧
    functionName (functionName s) = functionName s ∧
    typeName (functionName s) = typeName s := by
  have hback : tokens (functionName s).toList = tokens s.toList := by
    rw [functionName, String.toList_ofList]
    exact tokens_normalize s.toList
  have hkept : (s.toList.filter fun c => !isSeparator c) = s.toList.filter Char.isAlphanum :=
    List.filter_congr fun c _ => Bool.not_not _
  refine ⟨tokens_eq_scanned _, fun w => isWord_of_mem_tokens, ?_, tokens_normalize _, ?_, ?_⟩
  · rw [flatten_tokens, hkept]
  · rw [functionName, normalize, hback]
    rfl
  · rw [typeName, typeCase, hback]
    rfl

end ClientPlan.Naming
