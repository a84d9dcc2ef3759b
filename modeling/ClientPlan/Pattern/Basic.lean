import ClientPlan.Pattern.Case
import ClientPlan.Text.Blank
import ClientPlan.Text.Digit
import ClientPlan.Text.Letter

/-!
# Patterns

A pattern is a regular expression with captures, references to captures, assertions and three kinds
of repetition.  Modes such as ignoring case are resolved when a pattern is read, so that each part
of a pattern says by itself what it matches.
-/

set_option autoImplicit false

namespace ClientPlan

namespace Pattern

/-- A named class of characters. -/
inductive Category where
  /-- Decimal digits. -/
  | digit
  /-- Blanks. -/
  | space
  /-- Letters, digits and the underscore. -/
  | word
deriving DecidableEq, Repr

/-- Whether a character belongs to a class; with `ascii` only ASCII characters do. -/
def Category.holds (ascii : Bool) (c : Char) : Category → Bool
  | digit => if ascii then c.isDigit else (Text.digitValue? c).isSome
  | space => Text.isBlank c && (!ascii || c.toNat == 0x20 || (9 ≤ c.toNat && c.toNat ≤ 13))
  | word => Text.isWordChar c && (!ascii || c.toNat < 0x80)

/-- A part of a character set. -/
inductive Member where
  /-- The character with a code point. -/
  | code (n : Nat)
  /-- The characters from one code point to another. -/
  | range (first last : Nat)
  /-- The characters of a class, or those outside of it. -/
  | category (c : Category) (negated ascii : Bool)
deriving DecidableEq, Repr

/-- Whether a character, which is in lower case if case is ignored, belongs to a part of a set.  Among
other parts a character beyond the basic plane stands for its own case only. -/
def Member.holds (folding : Folding) (alone : Bool) (c : Char) : Member → Bool
  | code n => if alone || n ≤ basicPlane then folding.same n c.toNat else n == c.toNat
  | range first last => folding.meets first last c.toNat
  | category k negated ascii => k.holds ascii c != negated

/-- A set of characters. -/
structure CharSet where
  /-- The parts of the set. -/
  members : List Member
  /-- Whether the set is what is left outside of its parts. -/
  negated : Bool
  /-- How the case of characters is treated. -/
  folding : Folding
deriving DecidableEq, Repr

namespace CharSet

/-- Whether a character belongs to a set. -/
def holds (s : CharSet) (c : Char) : Bool :=
  let alone := s.members.length == 1
  (s.members.any fun m => m.holds s.folding alone (s.folding.lower c)) != s.negated

/-- The set of the character with the code point `n`. -/
def single (n : Nat) (folding : Folding) : CharSet := ⟨[.code n], false, folding⟩

/-- The set of all characters but the line feed. -/
def withinLine : CharSet := ⟨[.range 10 10], true, .none⟩

/-- The set of all characters. -/
def all : CharSet := ⟨[], true, .none⟩

end CharSet

/-- A condition on a place in the text. -/
inductive Anchor where
  /-- The start of the text. -/
  | start
  /-- The start of a line. -/
  | lineStart
  /-- The end of the text. -/
  | stop
  /-- The end of the text, or the place before a line feed that ends it. -/
  | lastLineEnd
  /-- The end of a line. -/
  | lineEnd
  /-- A place between a word and what is no word, or the opposite. -/
  | boundary (negated ascii : Bool)
deriving DecidableEq, Repr

/-- How a repetition chooses the number of its rounds. -/
inductive Greed where
  /-- As many as possible, fewer if needed. -/
  | greedy
  /-- As few as possible, more if needed. -/
  | lazy
  /-- As many as possible and never fewer. -/
  | possessive
deriving DecidableEq, Repr

end Pattern

open Pattern in
/-- A pattern. -/
inductive Pattern where
  /-- The empty text. -/
  | empty
  /-- One character of a set. -/
  | one (s : CharSet)
  /-- The empty text at certain places. -/
  | anchor (a : Anchor)
  /-- One pattern after another. -/
  | seq (p q : Pattern)
  /-- One of two patterns; the first is tried first. -/
  | alt (p q : Pattern)
  /-- A pattern several times. -/
  | rounds (least : Nat) (most : Option Nat) (greed : Greed) (p : Pattern)
  /-- A pattern in parentheses: a capture with its number, or a pattern with modes of its own. -/
  | group (number : Option Nat) (p : Pattern)
  /-- A pattern of which only the first match counts. -/
  | atomic (p : Pattern)
  /-- A pattern that matches, or does not, from here on. -/
  | ahead (negated : Bool) (p : Pattern)
  /-- A pattern that matches, or does not, from so many characters back on. -/
  | behind (width : Nat) (negated : Bool) (p : Pattern)
  /-- The text of a capture again. -/
  | again (number : Nat) (folding : Folding)
  /-- One of two patterns, depending on whether a capture took part. -/
  | choice (number : Nat) (p q : Pattern)
deriving DecidableEq, Repr

namespace Pattern

/-! ## Widths -/

/-- The least and the greatest length of the texts that a pattern matches; `none` is no limit. -/
abbrev Width := Nat × Option Nat

/-- The sum of two limits. -/
def addLimit : Option Nat → Option Nat → Option Nat
  | some a, some b => some (a + b)
  | _, _ => none

/-- The greater of two limits. -/
def maxLimit : Option Nat → Option Nat → Option Nat
  | some a, some b => some (max a b)
  | _, _ => none

/-- The product of two limits. -/
def mulLimit : Option Nat → Option Nat → Option Nat
  | some 0, _ | _, some 0 => some 0
  | some a, some b => some (a * b)
  | _, _ => none

/-- The width of a pattern, given the widths of the captures. -/
def width (captures : Nat → Width) : Pattern → Width
  | empty | anchor _ | ahead .. | behind .. => (0, some 0)
  | one _ => (1, some 1)
  | seq p q =>
    let a := p.width captures
    let b := q.width captures
    (a.1 + b.1, addLimit a.2 b.2)
  | alt p q | choice _ p q =>
    let a := p.width captures
    let b := q.width captures
    (min a.1 b.1, maxLimit a.2 b.2)
  | rounds least most _ p =>
    let a := p.width captures
    (least * a.1, mulLimit most a.2)
  | group _ p | atomic p => p.width captures
  | again n _ => captures n

/-! ## Shapes -/

/-- Whether a pattern may be repeated: anchors and repetitions may not. -/
def isRepeatable : Pattern → Bool
  | anchor _ | rounds .. => false
  | _ => true

/-- The set of a pattern that is nothing but one character, whatever modes it has. -/
def unit? : Pattern → Option CharSet
  | one s => some s
  | group none p => p.unit?
  | _ => none

/-- A sequence of patterns as one. -/
def ofSeq : List Pattern → Pattern
  | [] => empty
  | [p] => p
  | p :: r => seq p (ofSeq r)

/-- A choice among patterns as one. -/
def ofAlternatives : List Pattern → Pattern
  | [] => empty
  | [p] => p
  | p :: r => alt p (ofAlternatives r)

/-! ## Alternatives -/

/-- Whether a pattern has no parts, so that equal ones are the same. -/
def isSimple : Pattern → Bool
  | one _ | anchor _ | again .. => true
  | _ => false

/-- What all alternatives start with, if they start with the same simple pattern. -/
def commonHead? : List (List Pattern) → Option Pattern
  | (p :: _) :: r => if p.isSimple && r.all fun a => a.head? == some p then some p else none
  | _ => none

/-- What all alternatives start with, and the alternatives without it.  As many parts are taken as the
first alternative has. -/
def commonStart : Nat → List (List Pattern) → List Pattern × List (List Pattern)
  | 0, l => ([], l)
  | n + 1, l =>
    match commonHead? l with
    | none => ([], l)
    | some p =>
      let (start, rest) := commonStart n (l.map List.tail)
      (p :: start, rest)

/-- The parts of the set that an alternative is, if it is nothing but a set or a character. -/
def setMembers? : List Pattern → Option (List Member)
  | [one s] => if s.negated then none else some s.members
  | _ => none

/-- The parts of a choice among alternatives: what they have in common, then one set if nothing but
sets is left of them, and otherwise the choice itself. -/
def combine (folding : Folding) (alternatives : List (List Pattern)) : List Pattern :=
  match alternatives with
  | [] => []
  | [a] => a
  | a :: r =>
    let (start, rest) := commonStart a.length (a :: r)
    match rest.mapM setMembers? with
    | some members => start ++ [one ⟨members.flatten.eraseDups, false, folding⟩]
    | none => start ++ [ofAlternatives (rest.map ofSeq)]

end Pattern

end ClientPlan
