import ClientPlan.Json.Reader
import ClientPlan.Json.Writer

/-!
# Texts in JSON

A text that is written in quotes is read back, whatever follows it (`readText_quote`).  The reader
comes to code units first: a character gives one of them or a pair of surrogates, and no character is
a surrogate, so pairs are told apart from single units.
-/

set_option autoImplicit false

namespace ClientPlan.Json

/-! ## Hexadecimal digits -/

theorem baseDigit?_digitChar : ∀ d < 16, Text.baseDigit? 16 (Nat.digitChar d) = some d := by
  decide

/-- A code unit has four hexadecimal digits. -/
theorem hexadecimal_eq {n : Nat} (h : n < 0x10000) :
    Text.hexadecimal 4 n = [(n / 0x1000).digitChar, (n / 0x100 % 16).digitChar,
      (n / 0x10 % 16).digitChar, (n % 16).digitChar] := by
  have hshort : ∀ m < 16, Nat.toDigits 16 m = [m.digitChar] := fun m hm =>
    Nat.toDigits_of_lt_base hm
  have hlong : ∀ m, 16 ≤ m → Nat.toDigits 16 m = Nat.toDigits 16 (m / 16) ++ [(m % 16).digitChar] :=
    fun m hm => Nat.toDigits_of_base_le (by decide) hm
  have hzero : ∀ m < 1, Nat.digitChar m = '0' := by decide
  rcases Nat.lt_or_ge n 0x10 with h₁ | h₁
  · rw [Text.hexadecimal, hshort n h₁, hzero (n / 0x1000) (by omega),
      show n / 0x100 % 16 = 0 by omega, show n / 0x10 % 16 = 0 by omega, Nat.mod_eq_of_lt h₁]
    rfl
  rcases Nat.lt_or_ge n 0x100 with h₂ | h₂
  · rw [Text.hexadecimal, hlong n h₁, hshort (n / 16) (by omega), hzero (n / 0x1000) (by omega),
      show n / 0x100 % 16 = 0 by omega, Nat.mod_eq_of_lt (show n / 0x10 < 16 by omega)]
    rfl
  rcases Nat.lt_or_ge n 0x1000 with h₃ | h₃
  · rw [Text.hexadecimal, hlong n h₁, hlong (n / 16) (by omega), hshort (n / 16 / 16) (by omega),
      hzero (n / 0x1000) (by omega), Nat.div_div_eq_div_mul,
      Nat.mod_eq_of_lt (show n / 0x100 < 16 by omega)]
    rfl
  · rw [Text.hexadecimal, hlong n h₁, hlong (n / 16) (by omega), hlong (n / 16 / 16) (by omega),
      hshort (n / 16 / 16 / 16) (by omega), show n / 16 / 16 / 16 = n / 0x1000 by omega,
      show n / 16 / 16 % 16 = n / 0x100 % 16 by omega]
    rfl

theorem hexQuad?_digits {n : Nat} (h : n < 0x10000) :
    hexQuad? (n / 0x1000).digitChar (n / 0x100 % 16).digitChar (n / 0x10 % 16).digitChar
      (n % 16).digitChar = some n := by
  rw [hexQuad?, baseDigit?_digitChar _ (by omega), baseDigit?_digitChar _ (by omega),
    baseDigit?_digitChar _ (by omega), baseDigit?_digitChar _ (by omega)]
  exact congrArg some (by omega)

/-! ## Code units -/

/-- The code units that a character is read as. -/
def unitsOf (charset : Charset) (c : Char) : List Nat :=
  if charset = .ascii ∧ 0x10000 ≤ c.toNat then
    [0xD800 + (c.toNat - 0x10000) / 0x400, 0xDC00 + (c.toNat - 0x10000) % 0x400]
  else [c.toNat]

/-- A character is no surrogate. -/
theorem not_surrogate (c : Char) : c.toNat < 0xD800 ∨ 0xE000 ≤ c.toNat ∧ c.toNat < 0x110000 := by
  rcases c.valid with h | ⟨h, h'⟩
  · exact .inl h
  · exact .inr ⟨by have : 0xDFFF < c.toNat := h; omega, h'⟩

theorem isSurrogate_toNat (c : Char) : isSurrogate c.toNat = false := by
  have h := not_surrogate c
  rw [isSurrogate, Bool.and_eq_false_iff, decide_eq_false_iff_not, decide_eq_false_iff_not]
  omega

/-- A single code unit is read as its character. -/
theorem decodeUnits_toNat_cons (c : Char) (units : List Nat) :
    decodeUnits (c.toNat :: units) = (decodeUnits units).map (c :: ·) := by
  have h := not_surrogate c
  cases units with
  | nil =>
    show (if isSurrogate c.toNat then none else some [Char.ofNat c.toNat]) = some [c]
    rw [isSurrogate_toNat, if_neg Bool.false_ne_true, Char.ofNat_toNat]
  | cons low r =>
    rw [decodeUnits, if_neg (by simp only [Bool.and_eq_true, decide_eq_true_eq]; omega),
      isSurrogate_toNat, if_neg Bool.false_ne_true, Char.ofNat_toNat]

/-- A pair of surrogates is read as one character. -/
theorem decodeUnits_pair {c : Char} (h : 0x10000 ≤ c.toNat) (units : List Nat) :
    decodeUnits ((0xD800 + (c.toNat - 0x10000) / 0x400) ::
      (0xDC00 + (c.toNat - 0x10000) % 0x400) :: units) = (decodeUnits units).map (c :: ·) := by
  have h' := not_surrogate c
  rw [decodeUnits, if_pos (by simp only [Bool.and_eq_true, decide_eq_true_eq]; omega)]
  have hcode : 0x10000 + (0xD800 + (c.toNat - 0x10000) / 0x400 - 0xD800) * 0x400 +
      (0xDC00 + (c.toNat - 0x10000) % 0x400 - 0xDC00) = c.toNat := by
    omega
  rw [hcode, Char.ofNat_toNat]

/-- The code units of a text are read as the text. -/
theorem decodeUnits_flatMap (charset : Charset) (s : List Char) :
    decodeUnits (s.flatMap (unitsOf charset)) = some s := by
  induction s with
  | nil => rfl
  | cons c s ih =>
    rw [List.flatMap_cons, unitsOf]
    split
    · next h =>
      rw [List.cons_append, List.cons_append, List.nil_append, decodeUnits_pair h.2, ih]
      rfl
    · rw [List.cons_append, List.nil_append, decodeUnits_toNat_cons, ih]
      rfl

/-! ## Quoted characters -/

variable {acc : List Nat} {r : List Char}

theorem readUnits_escapeUnit {n : Nat} (h : n < 0x10000) :
    readUnits acc (escapeUnit n ++ r) = readUnits (n :: acc) r := by
  rw [escapeUnit, hexadecimal_eq h]
  show readUnits acc ('\\' :: 'u' :: _ :: _ :: _ :: _ :: r) = _
  rw [readUnits, hexQuad?_digits h]

theorem unitsOf_of_lt {charset : Charset} {c : Char} (h : c.toNat < 0x10000) :
    unitsOf charset c = [c.toNat] :=
  if_neg fun hwide => by omega

theorem readUnits_escapeUnits {c : Char} :
    readUnits acc (escapeUnits c ++ r) = readUnits ((unitsOf .ascii c).reverse ++ acc) r := by
  have h := not_surrogate c
  rw [escapeUnits]
  dsimp only
  split
  · next hlow =>
    rw [unitsOf_of_lt hlow, readUnits_escapeUnit hlow]
    rfl
  · next hhigh =>
    rw [unitsOf, if_pos ⟨rfl, Nat.le_of_not_lt hhigh⟩, List.append_assoc,
      readUnits_escapeUnit (by omega), readUnits_escapeUnit (by omega)]
    rfl

/-- A character that is escaped by a letter is read as the letter says. -/
theorem readUnits_letter {charset : Charset} {c letter : Char}
    (h : escapeLetter? letter = some c.toNat) :
    readUnits acc (['\\', letter] ++ r) = readUnits ((unitsOf charset c).reverse ++ acc) r := by
  have hlow : c.toNat < 0x10000 ∧ letter ≠ 'u' := by
    unfold escapeLetter? at h
    split at h <;> simp_all <;> omega
  rw [unitsOf_of_lt hlow.1]
  show readUnits acc ('\\' :: letter :: r) = readUnits (c.toNat :: acc) r
  rw [readUnits, h]
  intros
  exact hlow.2 ‹_›

/-- A character that is not escaped is read as itself. -/
theorem readUnits_plain {c : Char} (hquote : c ≠ '"') (hslash : c ≠ '\\') (h : 0x20 ≤ c.toNat) :
    readUnits acc (c :: r) = readUnits (c.toNat :: acc) r := by
  rw [readUnits, if_neg]
  · simp only [Bool.or_eq_true, decide_eq_true_eq, beq_iff_eq, not_or]
    exact ⟨by omega, hslash⟩
  all_goals
    intros
    contradiction

/-- A quoted character is read as its code units. -/
theorem readUnits_quoteChar (charset : Charset) (c : Char) :
    readUnits acc (quoteChar charset c ++ r) =
      readUnits ((unitsOf charset c).reverse ++ acc) r := by
  rw [quoteChar]
  -- The characters that a letter stands for come first.
  iterate 7
    split
    · next h => exact readUnits_letter (by rw [eq_of_beq h]; rfl)
  split
  · next hcontrol =>
    rw [unitsOf_of_lt (by omega), readUnits_escapeUnit (by omega)]
    rfl
  split
  · next hwide =>
    rw [Bool.and_eq_true, beq_iff_eq] at hwide
    rw [hwide.1]
    exact readUnits_escapeUnits
  · next hquote hslash _ _ _ _ _ hcontrol hwide =>
    have hunits : unitsOf charset c = [c.toNat] := by
      refine if_neg fun h => hwide (Bool.and_eq_true_iff.2 ⟨beq_iff_eq.2 h.1, ?_⟩)
      exact decide_eq_true (by omega)
    rw [hunits]
    exact readUnits_plain (by simpa using hquote) (by simpa using hslash) (by omega)

/-- A quoted text is read as its code units. -/
theorem readUnits_flatMap (charset : Charset) (acc : List Nat) (s : List Char) :
    readUnits acc (s.flatMap (quoteChar charset) ++ '"' :: r) =
      some (acc.reverse ++ s.flatMap (unitsOf charset), r) := by
  induction s generalizing acc with
  | nil => simp [readUnits]
  | cons c s ih =>
    rw [List.flatMap_cons, List.append_assoc, readUnits_quoteChar, ih, List.flatMap_cons,
      List.reverse_append, List.reverse_reverse, List.append_assoc]

/-- A text that is written in quotes is read back after its opening quote, whatever follows it. -/
theorem readText_quote (charset : Charset) (s : String) :
    ∃ h, readText (s.toList.flatMap (quoteChar charset) ++ '"' :: r) = .ok (s, ⟨r, h⟩) := by
  have hunits := readUnits_flatMap charset [] s.toList (r := r)
  rw [List.reverse_nil, List.nil_append] at hunits
  refine ⟨length_lt_of_readUnits hunits, ?_⟩
  unfold readText
  split
  · next hnone =>
    rw [hunits] at hnone
    cases hnone
  · next hsome =>
    rw [hunits] at hsome
    cases hsome
    split
    · next hlone =>
      rw [decodeUnits_flatMap] at hlone
      cases hlone
    · next hdecoded =>
      rw [decodeUnits_flatMap] at hdecoded
      cases hdecoded
      rw [String.ofList_toList]

end ClientPlan.Json
