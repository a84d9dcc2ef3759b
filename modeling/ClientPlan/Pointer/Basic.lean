import ClientPlan.Document.Shown

/-!
# Pointers

A pointer is a text that names a place in a document: a base, and one escaped segment for each step
down from it, all joined by slashes.  In a segment the tilde is written `~0` and the slash `~1`.

Main statement: `unescape_escape`, an escaped segment reads back.
-/

set_option autoImplicit false

namespace ClientPlan.Pointer

/-- A character of a segment in its escaped form. -/
def escapeChar (c : Char) : List Char :=
  if c == '~' then ['~', '0'] else if c == '/' then ['~', '1'] else [c]

/-- A segment in its escaped form. -/
def escapeChars (cs : List Char) : List Char := cs.flatMap escapeChar

/-- The text with every `~` followed by `digit` replaced by `c`. -/
def replaceTilde (digit c : Char) : List Char → List Char
  | a :: b :: r =>
    if a == '~' && b == digit then c :: replaceTilde digit c r
    else a :: replaceTilde digit c (b :: r)
  | r => r

/-- The segment of an escaped form: `~1` is read first, then `~0`. -/
def unescapeChars (cs : List Char) : List Char :=
  replaceTilde '0' '~' (replaceTilde '1' '/' cs)

/-- A segment in its escaped form. -/
def escape (s : String) : String := String.ofList (escapeChars s.toList)

/-- The segment of an escaped form. -/
def unescape (s : String) : String := String.ofList (unescapeChars s.toList)

/-- A step from a place in a document to a part of it. -/
inductive Segment where
  /-- To the value at a key; a key that is no text is shown as one. -/
  | key (k : Value)
  /-- To an item of a list. -/
  | index (n : Nat)

/-- A segment as text, before it is escaped. -/
def Segment.text : Segment → String
  | key k => k.text
  | index n => toString n

instance : Coe String Segment := ⟨fun s => .key (.str s)⟩

/-- The pointer that goes on from `base` by some segments; an empty base is the whole document. -/
def join (base : String) (segments : List Segment) : String :=
  "/".intercalate ((if base == "" then "#" else base) :: segments.map fun s => escape s.text)

/-- The pointer to the value at a text key. -/
def field (base : String) (key : String) : String := join base [key]

/-- The pointer to an item of a list at a text key. -/
def item (base : String) (key : String) (n : Nat) : String := join base [key, .index n]

/-! ## Escaping -/

theorem replaceTilde_cons_of_ne {digit c a : Char} (h : a ≠ '~') (r : List Char) :
    replaceTilde digit c (a :: r) = a :: replaceTilde digit c r := by
  cases r with
  | nil => rfl
  | cons b r => simp [replaceTilde, h]

/-- After `~1` has been read only the escaped tildes are left. -/
theorem replaceTilde_one_escapeChars (cs : List Char) :
    replaceTilde '1' '/' (escapeChars cs) =
      cs.flatMap fun c => if c == '~' then ['~', '0'] else [c] := by
  induction cs with
  | nil => rfl
  | cons c r ih =>
    by_cases h : c = '~'
    · subst h
      have : escapeChars ('~' :: r) = '~' :: '0' :: escapeChars r := rfl
      rw [this, replaceTilde]
      simp only [show ('0' == '1') = false from rfl, Bool.and_false]
      rw [if_neg (by decide), replaceTilde_cons_of_ne (by decide), ih]
      rfl
    · by_cases h' : c = '/'
      · subst h'
        have : escapeChars ('/' :: r) = '~' :: '1' :: escapeChars r := rfl
        rw [this, replaceTilde, if_pos (by decide), ih]
        rfl
      · have : escapeChars (c :: r) = c :: escapeChars r := by
          simp [escapeChars, escapeChar, h, h']
        rw [this, replaceTilde_cons_of_ne h, ih]
        simp [h]

theorem replaceTilde_zero_flatMap (cs : List Char) :
    replaceTilde '0' '~' (cs.flatMap fun c => if c == '~' then ['~', '0'] else [c]) = cs := by
  induction cs with
  | nil => rfl
  | cons c r ih =>
    by_cases h : c = '~'
    · subst h
      rw [List.flatMap_cons, if_pos (by decide), List.cons_append, List.cons_append,
        List.nil_append, replaceTilde, if_pos (by decide), ih]
    · rw [List.flatMap_cons, if_neg (by simpa using h), List.singleton_append,
        replaceTilde_cons_of_ne h, ih]

theorem unescapeChars_escapeChars (cs : List Char) : unescapeChars (escapeChars cs) = cs := by
  rw [unescapeChars, replaceTilde_one_escapeChars, replaceTilde_zero_flatMap]

/-- An escaped segment reads back. -/
theorem unescape_escape (s : String) : unescape (escape s) = s := by
  simp [unescape, escape, unescapeChars_escapeChars, String.ofList_toList]

end ClientPlan.Pointer
