import ClientPlan.Text.Lower

/-!
# Case

What it means for a pattern to ignore case.  Texts are compared in lower case.  Beyond ASCII some
letters with different lowercase forms share their capital, such as `s` and `ſ`; they count as equal
too.  A range holds a character if it holds one that is equal to it up to case; for characters beyond
the basic plane this goes by the character itself and by its capital.
-/

set_option autoImplicit false

namespace ClientPlan.Pattern

/-- How the case of characters is treated. -/
inductive Folding where
  /-- Case counts. -/
  | none
  /-- The case of ASCII letters is ignored. -/
  | ascii
  /-- The case of all letters is ignored. -/
  | unicode
deriving DecidableEq, Repr

/-- The letters with one capital, by their lowercase code points. -/
def kinships : List (List Nat) := [
  [0x69, 0x131], [0x73, 0x17F], [0xB5, 0x3BC], [0x345, 0x3B9, 0x1FBE], [0x390, 0x1FD3],
  [0x3B0, 0x1FE3], [0x3B2, 0x3D0], [0x3B5, 0x3F5], [0x3B8, 0x3D1], [0x3BA, 0x3F0], [0x3C0, 0x3D6],
  [0x3C1, 0x3F1], [0x3C2, 0x3C3], [0x3C6, 0x3D5], [0x432, 0x1C80], [0x434, 0x1C81], [0x43E, 0x1C82],
  [0x441, 0x1C83], [0x442, 0x1C84, 0x1C85], [0x44A, 0x1C86], [0x463, 0x1C87], [0x1C88, 0xA64B],
  [0x1E61, 0x1E9B], [0xFB05, 0xFB06]]

/-- The lowercase letters that count as equal to a lowercase letter. -/
def kindred (n : Nat) : List Nat := (kinships.find? fun group => group.contains n).getD [n]

/-- The letters of the basic plane whose capital comes later, as first, last and distance to it. -/
def laterCapitals : List (Nat × Nat × Nat) := [
  (0xB5, 0xB5, 743), (0xFF, 0xFF, 121), (0x149, 0x149, 371), (0x180, 0x180, 195),
  (0x195, 0x195, 97), (0x19A, 0x19A, 163), (0x19E, 0x19E, 130), (0x1BF, 0x1BF, 56),
  (0x23F, 0x240, 10815), (0x250, 0x250, 10783), (0x251, 0x251, 10780), (0x252, 0x252, 10782),
  (0x25C, 0x25C, 42319), (0x261, 0x261, 42315), (0x265, 0x265, 42280), (0x266, 0x266, 42308),
  (0x26A, 0x26A, 42308), (0x26B, 0x26B, 10743), (0x26C, 0x26C, 42305), (0x271, 0x271, 10749),
  (0x27D, 0x27D, 10727), (0x282, 0x282, 42307), (0x287, 0x287, 42282), (0x29D, 0x29D, 42261),
  (0x29E, 0x29E, 42258), (0x345, 0x345, 84), (0x37B, 0x37D, 130), (0x390, 0x390, 9),
  (0x3F2, 0x3F2, 7), (0x10D0, 0x10FA, 3008), (0x10FD, 0x10FF, 3008), (0x1C88, 0x1C88, 35266),
  (0x1D79, 0x1D79, 35332), (0x1D7D, 0x1D7D, 3814), (0x1D8E, 0x1D8E, 35384), (0x1F00, 0x1F07, 8),
  (0x1F10, 0x1F15, 8), (0x1F20, 0x1F27, 8), (0x1F30, 0x1F37, 8), (0x1F40, 0x1F45, 8),
  (0x1F51, 0x1F51, 8), (0x1F53, 0x1F53, 8), (0x1F55, 0x1F55, 8), (0x1F57, 0x1F57, 8),
  (0x1F60, 0x1F67, 8), (0x1F70, 0x1F71, 74), (0x1F72, 0x1F75, 86), (0x1F76, 0x1F77, 100),
  (0x1F78, 0x1F79, 128), (0x1F7A, 0x1F7B, 112), (0x1F7C, 0x1F7D, 126), (0x1FB0, 0x1FB2, 8),
  (0x1FC2, 0x1FC2, 8), (0x1FD0, 0x1FD1, 8), (0x1FE0, 0x1FE1, 8), (0x1FE5, 0x1FE5, 7),
  (0x1FF2, 0x1FF2, 8), (0xA794, 0xA794, 48)]

/-- The last code point of the basic plane. -/
def basicPlane : Nat := 0xFFFF

/-- The capitals of a lowercase code point, according to the lowercase runs. -/
def capitals (n : Nat) : List Nat :=
  (if 0x61 ≤ n && n ≤ 0x7A then [n - 0x20] else []) ++ (if n == 0x69 then [0x130] else []) ++
    Text.lowercaseRuns.filterMap fun run =>
      let m := ((n : Int) - run.shift).toNat
      if run.has m then some m else none

/-- The capital of a lowercase code point as far as a range beyond the basic plane may hold it. -/
def lateCapital (n : Nat) : Nat :=
  if n ≤ basicPlane then
    match laterCapitals.find? fun (first, last, _) => first ≤ n && n ≤ last with
    | some (_, _, distance) => n + distance
    | none => n
  else (capitals n).headD n

namespace Folding

/-- The character as it is compared. -/
def lower : Folding → Char → Char
  | none, c => c
  | ascii, c => c.toLower
  | unicode, c => Text.lowerChar c

/-- The code point as it is compared. -/
def lowerCode (f : Folding) (n : Nat) : Nat :=
  if n.isValidChar then (f.lower (Char.ofNat n)).toNat else n

/-- Whether a code point equals the lowercase code point `d` up to case. -/
def same (f : Folding) (n d : Nat) : Bool :=
  match f with
  | unicode => (kindred (f.lowerCode n)).contains d
  | f => f.lowerCode n == d

/-- The code points that equal the lowercase code point `d` up to case. -/
def equals (f : Folding) (d : Nat) : List Nat :=
  match f with
  | none => [d]
  | ascii => if 0x61 ≤ d && d ≤ 0x7A then [d, d - 0x20] else [d]
  | unicode => (kindred d).flatMap fun n => n :: capitals n

/-- Whether a range holds a code point that equals the lowercase code point `d` up to case. -/
def meets (f : Folding) (first last d : Nat) : Bool :=
  let within (n : Nat) : Bool := first ≤ n && n ≤ last
  match f with
  | none => within d
  | f =>
    (f.equals d).any (fun n => within n && n ≤ basicPlane) ||
      (basicPlane < last && (within d || within (lateCapital d)))

end Folding

end ClientPlan.Pattern
