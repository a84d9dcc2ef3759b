import ClientPlan.Proofs.Naming.Words

/-!
# Where words end

A letter or digit and the lowercase letters and digits behind it are in one word, and what comes next
goes on with that word or not (`tokens_run_append`).  An underscore never does, so words are read back
from the name that joins them (`tokens_joined`).  Capitals do not always begin a new word: words are
read back from their type name if and only if they stand apart in it (`tokens_typeCase_iff`).
-/

set_option autoImplicit false

namespace ClientPlan.Naming

variable {c d : Char} {r rest cs w w' : List Char} {words : List (List Char)}

/-! ## Characters -/

theorem toLower_of_isLower (h : isLower c = true) : c.toLower = c :=
  forall_isAlphanum (P := fun c => isLower c = true → c.toLower = c) (by decide)
    (isAlphanum_of_isLower h) h

theorem toLower_toUpper (h : isLower c = true) : c.toUpper.toLower = c :=
  forall_isAlphanum (P := fun c => isLower c = true → c.toUpper.toLower = c) (by decide)
    (isAlphanum_of_isLower h) h

/-- A capitalised character can go on with a word only if it is a digit. -/
theorem isLower_toUpper (h : isLower c = true) : isLower c.toUpper = c.isDigit :=
  forall_isAlphanum (P := fun c => isLower c = true → isLower c.toUpper = c.isDigit) (by decide)
    (isAlphanum_of_isLower h) h

/-- A lowercase letter or digit goes on with any word. -/
theorem joins_of_isLower (h : isLower d = true) : joins c d = true := by
  unfold joins
  split
  · exact h
  · exact isAlphanum_of_isLower h

/-! ## Runs -/

/-- A letter or digit with lowercase letters and digits behind it is the start of a word, and it is
all of that word unless what comes next goes on with it. -/
theorem tokens_run_append (hc : c.isAlphanum = true) (hr : ∀ d ∈ r, isLower d = true) :
    tokens (c :: (r ++ rest)) =
      if rest.head?.any (joins (r.getLastD c)) then
        (c.toLower :: r ++ (tokens rest).headD []) :: (tokens rest).tail
      else (c.toLower :: r) :: tokens rest := by
  have hsep {x : Char} (hx : x.isAlphanum = true) : ¬ isSeparator x = true := by
    rw [isSeparator, hx]
    exact Bool.false_ne_true
  induction r generalizing c with
  | nil =>
    rw [List.nil_append, tokens, if_neg (hsep hc), List.getLastD_nil]
    cases tokens rest with
    | nil => simp
    | cons t ts => rfl
  | cons x r ih =>
    have hx := hr x List.mem_cons_self
    rw [List.cons_append, tokens, if_neg (hsep hc),
      ih (isAlphanum_of_isLower hx) fun d hd => hr d (List.mem_cons_of_mem x hd),
      toLower_of_isLower hx, List.getLastD_cons, List.head?_cons]
    -- Whatever comes next, the word that begins with `x` goes on with the one of `c`.
    have hjoins : (some x).any (joins c) = true := joins_of_isLower hx
    by_cases hrest : rest.head?.any (joins (r.getLastD x)) = true
    · simp only [if_pos hrest, if_pos hjoins, List.cons_append]
    · simp only [if_neg hrest, if_pos hjoins]

/-! ## Words -/

theorem IsWord.exists_cons (h : IsWord w) :
    ∃ c r, w = c :: r ∧ isLower c = true ∧ ∀ d ∈ r, isLower d = true := by
  obtain ⟨c, r, rfl⟩ := List.exists_cons_of_ne_nil h.1
  exact ⟨c, r, rfl, h.2 c List.mem_cons_self, fun d hd => h.2 d (List.mem_cons_of_mem c hd)⟩

/-- A word ends where nothing goes on with it. -/
theorem tokens_word_append (h : IsWord w) (hend : ∀ c, rest.head?.any (joins c) = false) :
    tokens (w ++ rest) = w :: tokens rest := by
  obtain ⟨c, r, rfl, hc, hr⟩ := h.exists_cons
  rw [List.cons_append, tokens_run_append (isAlphanum_of_isLower hc) hr, hend,
    if_neg Bool.false_ne_true, toLower_of_isLower hc]

/-- Words are read back from the name that joins them. -/
theorem tokens_joined (h : ∀ w ∈ words, IsWord w) : tokens (joined words) = words := by
  induction words with
  | nil => rfl
  | cons w words ih =>
    have hw := h w List.mem_cons_self
    have ih := ih fun w' hw' => h w' (List.mem_cons_of_mem w hw')
    cases words with
    | nil =>
      rw [joined, List.intercalate_singleton]
      have hword : tokens (w ++ []) = [w] := tokens_word_append hw fun _ => rfl
      rwa [List.append_nil] at hword
    | cons w' words =>
      have hunderscore (c : Char) : ('_' :: joined (w' :: words)).head?.any (joins c) = false := by
        show joins c '_' = false
        unfold joins
        split <;> rfl
      rw [joined, List.intercalate_cons_cons, List.append_assoc]
      show tokens (w ++ '_' :: joined (w' :: words)) = _
      rw [tokens_word_append hw hunderscore, tokens_cons_separator rfl, ih]

/-- A name in function case has the words of the text that it is made of. -/
theorem tokens_normalize (cs : List Char) : tokens (normalize cs) = tokens cs :=
  tokens_joined fun _ => isWord_of_mem_tokens

/-! ## Type names -/

/-- Two words that can be told apart once they are capitalised and nothing stands between them: the
first one is no single letter, and the second one does not begin with a digit. -/
def StandApart (w w' : List Char) : Prop :=
  (w.length = 1 → w.all Char.isDigit = true) ∧ w'.head?.any Char.isDigit = false

instance (w w' : List Char) : Decidable (StandApart w w') :=
  inferInstanceAs (Decidable ((_ → _) ∧ _))

theorem joins_toUpper (hd : isLower d = true) :
    joins c d.toUpper = (!isLower c || d.isDigit) := by
  unfold joins
  split
  · next hc => rw [isLower_toUpper hd, hc, Bool.not_true, Bool.false_or]
  · next hc => rw [isAlphanum_toUpper hd, Bool.eq_false_iff.2 hc, Bool.not_false, Bool.true_or]

/-- A capitalised word ends in a capital just if it is a single letter. -/
theorem isLower_getLastD_toUpper (hc : isLower c = true) (hr : ∀ d ∈ r, isLower d = true) :
    isLower (r.getLastD c.toUpper) = true ↔ (r = [] → c.isDigit = true) := by
  rcases List.eq_nil_or_concat r with rfl | ⟨r, x, rfl⟩
  · simp [isLower_toUpper hc]
  · simp [hr x]

/-- A capitalised word ends before another one if and only if the words stand apart. -/
theorem standApart_iff_joins (hc : isLower c = true) (hr : ∀ x ∈ r, isLower x = true)
    (hd : isLower d = true) {r' : List Char} :
    StandApart (c :: r) (d :: r') ↔ joins (r.getLastD c.toUpper) d.toUpper = false := by
  rw [joins_toUpper hd, Bool.or_eq_false_iff, Bool.not_eq_false', isLower_getLastD_toUpper hc hr]
  cases r with
  | nil => simp [StandApart]
  | cons x r => simp [StandApart]

/-- The words of a type name are those it is made of if and only if any two that follow each other
stand apart. -/
theorem tokens_flatMap_capitalize_iff (h : ∀ w ∈ words, IsWord w) :
    tokens (words.flatMap capitalize) = words ↔ words.IsChain StandApart := by
  induction words with
  | nil => simp [tokens_nil]
  | cons w words ih =>
    have ih := ih fun w' hw' => h w' (List.mem_cons_of_mem w hw')
    obtain ⟨c, r, rfl, hc, hr⟩ := (h w List.mem_cons_self).exists_cons
    rw [List.flatMap_cons, capitalize, List.cons_append,
      tokens_run_append (isAlphanum_toUpper hc) hr, toLower_toUpper hc]
    cases words with
    | nil => simp [tokens_nil]
    | cons w' words =>
      obtain ⟨d, r', rfl, hd, -⟩ := (h w' (by simp)).exists_cons
      rw [List.isChain_cons_cons, standApart_iff_joins hc hr hd, ← ih]
      show (if joins (r.getLastD c.toUpper) d.toUpper = true then _ else _) = _ ↔ _
      split
      · next hjoins =>
        -- The first word swallows the second one, which is not empty.
        refine iff_of_false (fun heq => ?_) fun happart =>
          Bool.false_ne_true (happart.1.symm.trans hjoins)
        obtain ⟨hhead, htail⟩ := List.cons.inj heq
        cases htokens : tokens ((d :: r') :: words |>.flatMap capitalize) with
        | nil =>
          rw [htokens] at htail
          cases htail
        | cons t ts =>
          rw [htokens, List.headD_cons] at hhead
          have hnil : t = [] := List.append_right_eq_self.1 hhead
          exact ne_nil_of_mem_tokens (htokens ▸ List.mem_cons_self) hnil
      · next hjoins =>
        rw [and_iff_right (Bool.eq_false_iff.2 hjoins), List.cons_inj_right]

/-- The words of a text are read back from its type name if and only if any two that follow each
other stand apart. -/
theorem tokens_typeCase_iff (cs : List Char) :
    tokens (typeCase cs) = tokens cs ↔ (tokens cs).IsChain StandApart :=
  tokens_flatMap_capitalize_iff fun _ => isWord_of_mem_tokens

end ClientPlan.Naming
