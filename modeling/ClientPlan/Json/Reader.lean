import ClientPlan.Document.Value
import ClientPlan.Failure

/-!
# Reading JSON

A strict reader for JSON texts.  Beyond the standard it takes the words `NaN`, `Infinity` and
`-Infinity` as doubles.  A number is a double when it has a fraction or an exponent and an integer
otherwise.  Of equal keys of an object the first gives the position and the last the value.  Two
escapes that form a surrogate pair are one character.  A text with half of a pair is no sequence of
characters, so such texts are left out: the reader stops there.

Arrays and objects are read only up to a given depth, `room`: each of them takes one from it for what
stands inside.  Each reader returns the text it leaves together with the proof that this is shorter
than what it was given, so the recursion ends by the length of the text.
-/

set_option autoImplicit false

namespace ClientPlan.Json

/-- Why a text is no JSON value. -/
inductive Fault where
  /-- The text breaks the grammar. -/
  | malformed
  /-- An integer has more digits than the reader takes. -/
  | longInteger
  /-- Arrays and objects stand deeper inside one another than there is room for. -/
  | tooDeep
  /-- An escape stands for half of a surrogate pair. -/
  | loneSurrogate
deriving DecidableEq, Repr

/-- What a fault is if it is not taken to mean that the text is no JSON. -/
def Fault.escaping? : Fault → Option Malformed
  | malformed => none
  | longInteger => some .badScalar
  | tooDeep => some .tooDeep
  | loneSurrogate => some .loneSurrogate

/-- What is left of `s` after at least one character was read. -/
abbrev Rest (s : List Char) := { r : List Char // r.length < s.length }

/-- The result of reading a part of `s`. -/
abbrev Outcome (α : Type) (s : List Char) := Except Fault (α × Rest s)

/-- The blanks between the tokens. -/
def isSpace (c : Char) : Bool := c == ' ' || c == '\t' || c == '\n' || c == '\r'

/-- The text after leading blanks. -/
def skipSpace (s : List Char) : List Char := s.dropWhile isSpace

theorem length_skipSpace_le (s : List Char) : (skipSpace s).length ≤ s.length :=
  (List.dropWhile_suffix isSpace).length_le

/-- Blanks in front of a text that is given by its first character leave a shorter rest. -/
theorem length_lt_of_skipSpace {s t : List Char} {c : Char} (h : skipSpace s = c :: t) :
    t.length < s.length := by
  have := length_skipSpace_le s
  rw [h, List.length_cons] at this
  omega

/-! ## Texts -/

/-- The value of four hexadecimal digits. -/
def hexQuad? (a b c d : Char) : Option Nat := do
  let a ← Text.baseDigit? 16 a
  let b ← Text.baseDigit? 16 b
  let c ← Text.baseDigit? 16 c
  let d ← Text.baseDigit? 16 d
  return ((a * 16 + b) * 16 + c) * 16 + d

/-- The code point that a letter after a backslash stands for. -/
def escapeLetter? : Char → Option Nat
  | '"' => some 0x22
  | '\\' => some 0x5C
  | '/' => some 0x2F
  | 'b' => some 0x08
  | 'f' => some 0x0C
  | 'n' => some 0x0A
  | 'r' => some 0x0D
  | 't' => some 0x09
  | _ => none

/-- Reads code units up to the closing quote; `acc` holds those read so far in reverse. -/
def readUnits (acc : List Nat) : List Char → Option (List Nat × List Char)
  | [] => none
  | '"' :: r => some (acc.reverse, r)
  | '\\' :: 'u' :: a :: b :: c :: d :: r =>
    match hexQuad? a b c d with
    | none => none
    | some n => readUnits (n :: acc) r
  | '\\' :: c :: r =>
    match escapeLetter? c with
    | none => none
    | some n => readUnits (n :: acc) r
  | c :: r => if c.toNat < 0x20 || c == '\\' then none else readUnits (c.toNat :: acc) r

/-- What follows a text is shorter than the text with what follows it. -/
theorem length_lt_of_readUnits {acc units : List Nat} {s r : List Char}
    (h : readUnits acc s = some (units, r)) : r.length < s.length := by
  fun_induction readUnits acc s
  all_goals first
    | (rename_i ih; have := ih h; simp only [List.length_cons]; omega)
    | (cases h <;> simp)

/-- Whether a code unit is one of a surrogate pair. -/
def isSurrogate (n : Nat) : Bool := 0xD800 ≤ n && n < 0xE000

/-- The characters of a sequence of code units: pairs of surrogates are joined.  There are none if half
of a pair stands alone. -/
def decodeUnits : List Nat → Option (List Char)
  | [] => some []
  | high :: low :: r =>
    if 0xD800 ≤ high && high < 0xDC00 && 0xDC00 ≤ low && low < 0xE000 then
      (decodeUnits r).map (Char.ofNat (0x10000 + (high - 0xD800) * 0x400 + (low - 0xDC00)) :: ·)
    else if isSurrogate high then none
    else (decodeUnits (low :: r)).map (Char.ofNat high :: ·)
  | [n] => if isSurrogate n then none else some [Char.ofNat n]

/-- Reads a text after its opening quote. -/
def readText (s : List Char) : Outcome String s :=
  match h : readUnits [] s with
  | none => .error .malformed
  | some (units, r) =>
    match decodeUnits units with
    | none => .error .loneSurrogate
    | some text => .ok (String.ofList text, ⟨r, length_lt_of_readUnits h⟩)

/-! ## Numbers -/

/-- The number that a run of ASCII digits denotes. -/
def natOfDigits (digits : List Char) : Nat :=
  digits.foldl (fun n c => n * 10 + (c.toNat - 0x30)) 0

/-- The integral digits of a number: a single zero, or a run of digits that starts with another. -/
def integralDigits : List Char → List Char
  | '0' :: _ => ['0']
  | s => s.takeWhile Char.isDigit

/-- The digits of a fraction, if the text goes on with a point and a digit. -/
def fractionDigits : List Char → List Char
  | '.' :: s => s.takeWhile Char.isDigit
  | _ => []

/-- The sign and the digits of an exponent, if the text goes on with one, and how long it is. -/
def exponentPart : List Char → Option (Bool × List Char × Nat)
  | c :: s =>
    if c == 'e' || c == 'E' then
      let (negative, width, t) := match s with
        | '-' :: t => (true, 2, t)
        | '+' :: t => (false, 2, t)
        | t => (false, 1, t)
      let digits := t.takeWhile Char.isDigit
      if digits.isEmpty then none else some (negative, digits, width + digits.length)
    else none
  | [] => none

/-- The longest number at the start of a text and its length, which is positive. -/
def number? (s : List Char) : Except Fault (Option (Value × { n : Nat // 0 < n })) :=
  let (negative, sign, t) := match s with
    | '-' :: t => (true, 1, t)
    | t => (false, 0, t)
  let whole := integralDigits t
  let afterWhole := t.drop whole.length
  let fraction := fractionDigits afterWhole
  let fractionLength := if fraction.isEmpty then 0 else fraction.length + 1
  let exponent := exponentPart (afterWhole.drop fractionLength)
  let exponentLength := (exponent.map (·.2.2)).getD 0
  let length := sign + whole.length + fractionLength + exponentLength
  if h : 0 < whole.length then
    if fraction.isEmpty && exponent.isNone then
      if Text.maxDigits < whole.length then .error .longInteger
      else
        let n := natOfDigits whole
        .ok (some (.int (if negative then -(n : Int) else n), ⟨length, by omega⟩))
    else
      let power : Int := match exponent with
        | some (true, digits, _) => -(natOfDigits digits : Int)
        | some (false, digits, _) => natOfDigits digits
        | none => 0
      let x := Number.ofDecimal (natOfDigits (whole ++ fraction)) (power - fraction.length)
      .ok (some (.float (if negative then -x else x), ⟨length, by omega⟩))
  else .ok none

/-- Reads a number. -/
def readNumber (s : List Char) : Outcome Value s := do
  match ← number? s with
  | none => .error .malformed
  | some (v, ⟨n, h⟩) =>
    if hs : s = [] then .error .malformed
    else
      return (v, ⟨s.drop n, by
        have : 0 < s.length := List.length_pos_iff.2 hs
        simp only [List.length_drop]; omega⟩)

/-! ## Values -/

/-- The words that are values, and what follows one. -/
def readWord (s : List Char) : Option (Value × Rest s) :=
  match s with
  | 'n' :: 'u' :: 'l' :: 'l' :: r => some (.null, ⟨r, by simp only [List.length_cons]; omega⟩)
  | 't' :: 'r' :: 'u' :: 'e' :: r => some (.bool true, ⟨r, by simp only [List.length_cons]; omega⟩)
  | 'f' :: 'a' :: 'l' :: 's' :: 'e' :: r =>
    some (.bool false, ⟨r, by simp only [List.length_cons]; omega⟩)
  | 'N' :: 'a' :: 'N' :: r =>
    some (.float Number.notANumber, ⟨r, by simp only [List.length_cons]; omega⟩)
  | 'I' :: 'n' :: 'f' :: 'i' :: 'n' :: 'i' :: 't' :: 'y' :: r =>
    some (.float Number.infinity, ⟨r, by simp only [List.length_cons]; omega⟩)
  | '-' :: 'I' :: 'n' :: 'f' :: 'i' :: 'n' :: 'i' :: 't' :: 'y' :: r =>
    some (.float (-Number.infinity), ⟨r, by simp only [List.length_cons]; omega⟩)
  | _ => none

mutual

/-- Reads a value at the start of a text. -/
def readValue (room : Nat) (s : List Char) : Outcome Value s :=
  match s with
  | '"' :: r => do
    let (t, ⟨rest, h⟩) ← readText r
    return (.str t, ⟨rest, by simp only [List.length_cons]; omega⟩)
  | '[' :: r =>
    if room = 0 then .error .tooDeep
    else if h : (skipSpace r).head? = some ']' then
      .ok (.list [], ⟨(skipSpace r).tail, by
        have := length_skipSpace_le r
        simp only [List.length_tail, List.length_cons]; omega⟩)
    else do
      have := length_skipSpace_le r
      let (items, ⟨rest, h'⟩) ← readItems (room - 1) [] (skipSpace r)
      return (.list items, ⟨rest, by simp only [List.length_cons]; omega⟩)
  | '\x7b' :: r =>
    if room = 0 then .error .tooDeep
    else if h : (skipSpace r).head? = some '\x7d' then
      .ok (.map [], ⟨(skipSpace r).tail, by
        have := length_skipSpace_le r
        simp only [List.length_tail, List.length_cons]; omega⟩)
    else do
      have := length_skipSpace_le r
      let (entries, ⟨rest, h'⟩) ← readEntries (room - 1) [] (skipSpace r)
      return (.ofEntries entries, ⟨rest, by simp only [List.length_cons]; omega⟩)
  | s =>
    match readWord s with
    | some result => .ok result
    | none => readNumber s
termination_by (s.length, 0)
decreasing_by all_goals simp_wf; omega

/-- Reads the items of an array up to its closing bracket; `acc` holds those read so far in
reverse. -/
def readItems (room : Nat) (acc : List Value) (s : List Char) : Outcome (List Value) s := do
  let (v, ⟨r, h⟩) ← readValue room s
  match h₁ : skipSpace r with
  | ',' :: t =>
    have h₂ := length_lt_of_skipSpace h₁
    have h₃ := length_skipSpace_le t
    let (items, ⟨rest, h₄⟩) ← readItems room (v :: acc) (skipSpace t)
    return (items, ⟨rest, by omega⟩)
  | ']' :: rest =>
    have h₂ := length_lt_of_skipSpace h₁
    return ((v :: acc).reverse, ⟨rest, by omega⟩)
  | _ => .error .malformed
termination_by (s.length, 1)
decreasing_by all_goals omega

/-- Reads the members of an object up to its closing brace; `acc` holds those read so far in
reverse. -/
def readEntries (room : Nat) (acc : Entries) (s : List Char) : Outcome Entries s :=
  match s with
  | '"' :: r => do
    let (key, ⟨afterKey, h⟩) ← readText r
    match h₁ : skipSpace afterKey with
    | ':' :: t =>
      have h₂ := length_lt_of_skipSpace h₁
      have h₃ := length_skipSpace_le t
      let (v, ⟨afterValue, h₄⟩) ← readValue room (skipSpace t)
      match h₅ : skipSpace afterValue with
      | ',' :: u =>
        have h₆ := length_lt_of_skipSpace h₅
        have h₇ := length_skipSpace_le u
        let (entries, ⟨rest, h₈⟩) ← readEntries room ((.str key, v) :: acc) (skipSpace u)
        return (entries, ⟨rest, by simp only [List.length_cons]; omega⟩)
      | '\x7d' :: rest =>
        have h₆ := length_lt_of_skipSpace h₅
        return (((.str key, v) :: acc).reverse, ⟨rest, by simp only [List.length_cons]; omega⟩)
      | _ => .error .malformed
    | _ => .error .malformed
  | _ => .error .malformed
termination_by (s.length, 0)
decreasing_by all_goals simp_wf; omega

end

/-- Reads a text that holds one value and blanks around it. -/
def read (room : Nat) (s : String) : Except Fault Value := do
  let (v, rest) ← readValue room (skipSpace s.toList)
  if rest.val.all isSpace then return v else .error .malformed

end ClientPlan.Json
