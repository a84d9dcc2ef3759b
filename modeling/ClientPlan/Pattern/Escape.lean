import ClientPlan.Pattern.Reading
import ClientPlan.Text.CharacterName

/-!
# Escapes and sets

What a backslash and the characters after it stand for, inside of a set and outside, and how the parts
of a set are read.
-/

set_option autoImplicit false

namespace ClientPlan.Pattern

/-- The text up to a closing character and what follows that. -/
def until? (close : Char) (r : List Char) : Option (List Char × List Char) :=
  match r.dropWhile (· != close) with
  | _ :: rest => some (r.takeWhile (· != close), rest)
  | [] => none

/-- The number written by the first `n` characters in a base, if they are all digits. -/
def digits? (base n : Nat) (s : List Char) : Option (Nat × List Char) :=
  let t := s.take n
  if t.length == n && t.all fun c => (Text.baseDigit? base c).isSome then
    (Text.readNatural (Text.baseDigit? base) base t).map fun m => (m, s.drop n)
  else none

/-- Whether a character is an octal digit. -/
def isOctal (c : Char) : Bool := '0' ≤ c && c ≤ '7'

/-- The number written by octal digits. -/
def octal (s : List Char) : Nat := s.foldl (fun n c => n * 8 + (c.toNat - 48)) 0

/-- The class that a letter after a backslash stands for. -/
def categoryLetter? (ascii : Bool) (c : Char) : Option Member :=
  if c == 'd' then some (.category .digit false ascii)
  else if c == 'D' then some (.category .digit true ascii)
  else if c == 's' then some (.category .space false ascii)
  else if c == 'S' then some (.category .space true ascii)
  else if c == 'w' then some (.category .word false ascii)
  else if c == 'W' then some (.category .word true ascii)
  else none

/-- The control character that a letter after a backslash stands for. -/
def controlLetter? (c : Char) : Option Nat :=
  if c == 'a' then some 7
  else if c == 'f' then some 12
  else if c == 'n' then some 10
  else if c == 'r' then some 13
  else if c == 't' then some 9
  else if c == 'v' then some 11
  else none

/-- The anchor that a letter after a backslash stands for. -/
def anchorLetter? (ascii : Bool) (c : Char) : Option Anchor :=
  if c == 'A' then some .start
  else if c == 'Z' then some .stop
  else if c == 'b' then some (.boundary false ascii)
  else if c == 'B' then some (.boundary true ascii)
  else none

/-- The code point of a character whose name follows in braces. -/
def namedCode? : List Char → Option (Nat × List Char)
  | '\x7b' :: r => do
    let (name, r) ← until? '\x7d' r
    return (← Text.characterNamed? name, r)
  | _ => none

/-- The code point of an escape by hexadecimal digits or by name, or of a character that is no
letter. -/
def codeEscape? (c : Char) (r : List Char) : Option (Nat × List Char) :=
  if c == 'x' then digits? 16 2 r
  else if c == 'u' then digits? 16 4 r
  else if c == 'U' then (digits? 16 8 r).filter fun e => e.1 < 0x110000
  else if c == 'N' then namedCode? r
  else if c.isAlpha then none
  else some (c.toNat, r)

/-- Reads a reference to a capture. -/
def readAgain (st : Reading) (number : Nat) (r : List Char) : Option (Reading × List Char) :=
  if st.isClosed number && st.isInReach number then
    some (st.push (.again number st.mode.folding), r)
  else none

/-- Reads an escape that starts with a digit: an octal code point or a reference. -/
def readDigitEscape (st : Reading) (c : Char) (r : List Char) : Option (Reading × List Char) :=
  if c == '0' then
    let more := (r.take 2).takeWhile isOctal
    some (st.pushCode (octal more), r.drop more.length)
  else
    match r with
    | d :: r' =>
      if d.isDigit then
        match r' with
        | e :: r'' =>
          if isOctal c && isOctal d && isOctal e then
            let n := octal [c, d, e]
            if n ≤ 255 then some (st.pushCode n, r'') else none
          else readAgain st ((c.toNat - 48) * 10 + (d.toNat - 48)) r'
        | [] => readAgain st ((c.toNat - 48) * 10 + (d.toNat - 48)) r'
      else readAgain st (c.toNat - 48) r
    | [] => readAgain st (c.toNat - 48) r

/-- Reads what follows a backslash outside of a set. -/
def readEscape (st : Reading) (r : List Char) : Option (Reading × List Char) :=
  match r with
  | [] => none
  | c :: r =>
    match categoryLetter? st.mode.ascii c, anchorLetter? st.mode.ascii c, controlLetter? c with
    | some m, _, _ => some (st.push (.one ⟨[m], false, st.mode.folding⟩), r)
    | none, some a, _ => some (st.push (.anchor a), r)
    | none, none, some n => some (st.pushCode n, r)
    | none, none, none =>
      if c.isDigit then readDigitEscape st c r
      else (codeEscape? c r).map fun (n, r) => (st.pushCode n, r)

/-! ## Sets -/

/-- Reads a character or a class as a part of a set. -/
def readMember (ascii : Bool) : List Char → Option (Member × List Char)
  | [] => none
  | '\\' :: c :: r =>
    match categoryLetter? ascii c, controlLetter? c with
    | some m, _ => some (m, r)
    | none, some n => some (.code n, r)
    | none, none =>
      if c == 'b' then some (.code 8, r)
      else if isOctal c then
        let more := c :: (r.take 2).takeWhile isOctal
        if octal more ≤ 255 then some (.code (octal more), r.drop (more.length - 1)) else none
      else if c.isDigit then none
      else (codeEscape? c r).map fun (n, r) => (.code n, r)
  | '\\' :: [] => none
  | c :: r => some (.code c.toNat, r)

/-- The range between two parts. -/
def range? : Member → Member → Option Member
  | .code a, .code b => if a ≤ b then some (.range a b) else none
  | _, _ => none

/-- Reads the parts of a set up to the closing bracket; a bracket in the first place is a part. -/
def readMembers (ascii : Bool) (members : List Member) (s : List Char) :
    Option (List Member × List Char) :=
  if s.head? == some ']' && !members.isEmpty then some (members.reverse, s.tail)
  else
    match readMember ascii s with
    | none => none
    | some (a, r) =>
      let next : Option (List Member × List Char) := match r with
        | '-' :: ']' :: t => some (.code 45 :: a :: members, ']' :: t)
        | '-' :: t =>
          match readMember ascii t with
          | some (b, t) => (range? a b).map fun m => (m :: members, t)
          | none => none
        | r => some (a :: members, r)
      match next with
      | none => none
      | some (members, t) =>
        if _h : t.length < s.length then readMembers ascii members t else none
termination_by s.length

/-- Reads a set after its opening bracket. -/
def readSet (st : Reading) (r : List Char) : Option (Reading × List Char) :=
  let (negated, r) := match r with
    | '^' :: r => (true, r)
    | r => (false, r)
  (readMembers st.mode.ascii [] r).map fun (members, r) =>
    (st.push (.one ⟨members.eraseDups, negated, st.mode.folding⟩), r)

end ClientPlan.Pattern
