/-!
# Tokens of an identifier

An identifier is split into tokens at every character that is no ASCII letter or digit, and before
every capital that follows a lowercase letter or a digit.  Tokens are written in lower case.

* `normalize` joins the tokens by underscores;
* `typeCase` capitalises the tokens and joins them without a separator.

The names are built on lists of characters; `typeName` and `functionName` are the same on strings.
-/

set_option autoImplicit false

namespace ClientPlan.Naming

/-- A character that separates tokens: anything but an ASCII letter or digit. -/
def isSeparator (c : Char) : Bool := !c.isAlphanum

/-- A lowercase ASCII letter or a digit: a character that a capital does not continue. -/
def isLower (c : Char) : Bool := c.isLower || c.isDigit

/-- Whether `d`, standing directly after the token character `c`, belongs to the same token. -/
def joins (c d : Char) : Bool :=
  if isLower c then isLower d else d.isAlphanum

/-- The tokens of an identifier in lower case. -/
def tokens : List Char → List (List Char)
  | [] => []
  | c :: r =>
    if isSeparator c then tokens r
    else
      match tokens r with
      | t :: ts =>
        if r.head?.any (joins c) then (c.toLower :: t) :: ts else [c.toLower] :: t :: ts
      | [] => [[c.toLower]]

/-- The tokens joined by underscores. -/
def normalize (cs : List Char) : List Char :=
  ['_'].intercalate (tokens cs)

/-- A token with its first character in upper case. -/
def capitalize : List Char → List Char
  | [] => []
  | c :: r => c.toUpper :: r

/-- The capitalised tokens without a separator. -/
def typeCase (cs : List Char) : List Char :=
  (tokens cs).flatMap capitalize

/-- An identifier as the name of a module or a schema. -/
def typeName (s : String) : String := String.ofList (typeCase s.toList)

/-- An identifier as the name of a function or a file. -/
def functionName (s : String) : String := String.ofList (normalize s.toList)

theorem tokens_nil : tokens [] = [] := rfl

/-- A separator in front of an identifier does not matter. -/
theorem tokens_cons_separator {c : Char} (h : isSeparator c = true) (r : List Char) :
    tokens (c :: r) = tokens r := by
  simp [tokens, h]

/-- No token is empty. -/
theorem ne_nil_of_mem_tokens {cs t : List Char} (h : t ∈ tokens cs) : t ≠ [] := by
  induction cs generalizing t with
  | nil => simp [tokens] at h
  | cons c r ih =>
    rw [tokens] at h
    split at h
    · exact ih h
    · split at h
      · next u us hu =>
        split at h
        · rcases List.mem_cons.1 h with rfl | h
          · exact List.cons_ne_nil _ _
          · exact ih (hu ▸ List.mem_cons_of_mem _ h)
        · rcases List.mem_cons.1 h with rfl | h
          · exact List.cons_ne_nil _ _
          · exact ih (hu ▸ h)
      · rw [List.mem_singleton] at h
        subst h
        exact List.cons_ne_nil _ _

/-- The tokens hold the letters and digits of the identifier in their order, in lower case. -/
theorem flatten_tokens (cs : List Char) :
    (tokens cs).flatten = (cs.filter fun c => !isSeparator c).map Char.toLower := by
  induction cs with
  | nil => rfl
  | cons c r ih =>
    rw [tokens]
    by_cases h : isSeparator c
    · simp [h, ih]
    · rw [if_neg h, List.filter_cons_of_pos (by simpa using h), List.map_cons, ← ih]
      cases hr : tokens r with
      | nil => simp
      | cons t ts => dsimp only; split <;> simp

end ClientPlan.Naming
