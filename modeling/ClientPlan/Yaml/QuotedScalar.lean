import ClientPlan.Yaml.Source

/-!
# Quoted scalars

Inside quotes a line break becomes a blank, and blanks around it are dropped; each further line
break is kept.  Single quotes are doubled inside single quotes, and double quotes have escapes by a
backslash.
-/

set_option autoImplicit false

namespace ClientPlan.Yaml

/-- The character that a character after a backslash stands for. -/
def escapedChar? (c : Char) : Option Nat :=
  if c == '0' then some 0
  else if c == 'a' then some 0x07
  else if c == 'b' then some 0x08
  else if c == 't' || c == '\t' then some 0x09
  else if c == 'n' then some 0x0A
  else if c == 'v' then some 0x0B
  else if c == 'f' then some 0x0C
  else if c == 'r' then some 0x0D
  else if c == 'e' then some 0x1B
  else if c == ' ' || c == '"' || c == '\\' || c == '/' then some c.toNat
  else if c == 'N' then some 0x85
  else if c == '_' then some 0xA0
  else if c == 'L' then some 0x2028
  else if c == 'P' then some 0x2029
  else none

/-- The number of hexadecimal digits after a letter that follows a backslash. -/
def escapeWidth? (c : Char) : Option Nat :=
  if c == 'x' then some 2 else if c == 'u' then some 4 else if c == 'U' then some 8 else none

/-- The character with a given code point.  A surrogate is no character, and two of them are not joined
here. -/
def charOfCode (n : Nat) : Except Fault Char :=
  if 0x80000000 ≤ n then .error (.scalar .hugeCode)
  else if 0x110000 ≤ n then .error (.scalar .badScalar)
  else if n.isValidChar then .ok (Char.ofNat n)
  else .error (.scalar .loneSurrogate)

/-- The character of an escape by hexadecimal digits, and what follows it. -/
def codeEscape (width : Nat) (s : Source) : Except Fault (Char × Source) :=
  let digits := (s.take width).map Located.char
  if digits.all fun c => (Text.baseDigit? 16 c).isSome then
    match Text.readNatural (Text.baseDigit? 16) 16 digits with
    | some n => do return (← charOfCode n, s.drop width)
    | none => .error .malformed
  else .error .malformed

/-- The line breaks at the start, with the blanks around them dropped; `acc` holds those read so far
in reverse. -/
def quotedBreaks (acc : List Char) (s : Source) : Except Fault (List Char × Source) :=
  if s.atMarker then .error .malformed
  else
    let t := s.skip isBlank
    if isBreak t.peek then
      let (c, u) := t.lineBreak
      if _h : u.length < s.length then quotedBreaks (c ++ acc) u else .error .malformed
    else .ok (acc.reverse, t)
termination_by s.length

/-- The text of a gap: blanks, or a line break and what follows it. -/
def quotedGap (s : Source) : Except Fault (List Char × Source) :=
  let t := s.skip isBlank
  if isBreak t.peek then do
    let (c, u) := t.lineBreak
    let (breaks, u) ← quotedBreaks [] u
    let joint := if c != ['\n'] then c else if breaks.isEmpty then [' '] else []
    return (joint ++ breaks, u)
  else .ok (s.run isBlank, t)

/-- The text that a backslash starts, and what follows it. -/
def escape (s : Source) : Except Fault (List Char × Source) :=
  let c := s.peek
  match escapedChar? c, escapeWidth? c with
  | some n, _ => .ok ([Char.ofNat n], s.drop 1)
  | none, some width => do
    let (d, t) ← codeEscape width (s.drop 1)
    return ([d], t)
  | none, none => if isBreak c then quotedBreaks [] s.lineBreak.2 else .error .malformed

/-- The next part of a quoted text, and what follows it. -/
def quotedPart (double : Bool) (s : Source) : Except Fault (List Char × Source) :=
  let c := s.peek
  if c == endMark then .error .malformed
  else if isBlank c || isBreak c then quotedGap s
  else if double && c == '\\' then escape (s.drop 1)
  else .ok ([c], s.drop 1)

/-- Reads a quoted text after its opening quote; `acc` holds what was read so far in reverse. -/
def quotedText (double : Bool) (acc : List Char) (s : Source) :
    Except Fault (List Char × Source) :=
  let quote := if double then '"' else '\x27'
  if s.peek == quote then
    if !double && s.peekAt 1 == quote then
      let t := s.drop 2
      if _h : t.length < s.length then quotedText double (quote :: acc) t else .error .malformed
    else .ok (acc.reverse, s.drop 1)
  else
    match quotedPart double s with
    | .error e => .error e
    | .ok (part, t) =>
      if _h : t.length < s.length then quotedText double (part.reverse ++ acc) t
      else .error .malformed
termination_by s.length

end ClientPlan.Yaml
