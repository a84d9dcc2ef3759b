import ClientPlan.Pattern.Basic
import ClientPlan.Pattern.Fault

/-!
# Matching

A match is searched for with backtracking: `run` tries the ways in which a pattern can match at a
place in their order of preference, and takes the first after which the rest matches too.

Captures are kept as marks, which say where they start and end.  A way that fails leaves the marks
that it has set behind.  Before the next way is tried they are taken back: all of them inside of a
repetition that may give rounds back, and elsewhere only those that are new, so that a mark which was
set before may keep the place that the failed way gave it.
-/

set_option autoImplicit false

namespace ClientPlan.Pattern

/-- Where the captures start and end: capture `n` starts at mark `2 * n - 2` and ends at the next. -/
abbrev Marks := List (Option Nat)

namespace Marks

/-- The marks with the mark `i` at a position; marks before it that are missing are not set. -/
def mark (m : Marks) (i position : Nat) : Marks :=
  if i < m.length then m.set i (some position)
  else m ++ List.replicate (i - m.length) none ++ [some position]

/-- Where a capture starts and ends. -/
def capture? (m : Marks) (number : Nat) : Option (Nat × Nat) :=
  match m[2 * (number - 1)]?, m[2 * (number - 1) + 1]? with
  | some (some start), some (some stop) => if start ≤ stop then some (start, stop) else none
  | _, _ => none

/-- Whether a capture ends before it starts, which happens if its marks come of different ways. -/
def hasReversed : Marks → Bool
  | start :: stop :: r =>
    (match start, stop with
      | some start, some stop => decide (stop < start)
      | _, _ => false) || hasReversed r
  | _ => false

/-- The marks after a failed way that started with `saved` and ended with `m`. -/
def back (inside : Bool) (saved m : Marks) : Marks :=
  if inside then saved else m.take saved.length

end Marks

/-- A place in a text, with the captures so far. -/
structure Place where
  /-- The number of characters before the place. -/
  position : Nat
  /-- The marks of the captures. -/
  marks : Marks

/-- What a search comes to. -/
inductive Outcome where
  /-- A match that ends at a place. -/
  | found (place : Place)
  /-- No match, and the marks that are left behind. -/
  | missed (marks : Marks)

/-- What is to be matched after a pattern. -/
abbrev Continuation := Place → Outcome

/-- A way to match something and what comes after it. -/
abbrev Matcher := Place → Continuation → Outcome

/-- Whether a condition holds at a position.  An empty text has neither a word boundary nor a place
without one. -/
def Anchor.holds (text : Array Char) (position : Nat) : Anchor → Bool
  | start => position == 0
  | lineStart => position == 0 || text[position - 1]? == some '\n'
  | stop => position == text.size
  | lastLineEnd =>
    position == text.size || (position + 1 == text.size && text[position]? == some '\n')
  | lineEnd => position == text.size || text[position]? == some '\n'
  | boundary negated ascii =>
    let isWord (c : Option Char) : Bool := c.any fun c => Category.word.holds ascii c
    let before := if position == 0 then none else text[position - 1]?
    !text.isEmpty && (isWord before != isWord text[position]?) != negated

/-! ## Repeated characters -/

/-- How many of the characters from a position on belong to a set, counted up to a limit. -/
def countOf (text : Array Char) (s : CharSet) : Nat → Nat → Nat
  | 0, _ => 0
  | n + 1, position =>
    match text[position]? with
    | some c => if s.holds c then countOf text s n (position + 1) + 1 else 0
    | none => 0

/-- Goes on after the first `n` characters from a position, or after fewer of them. -/
def eagerly (inside : Bool) (position : Nat) (k : Continuation) : Nat → Marks → Outcome
  | 0, marks =>
    match k ⟨position, marks⟩ with
    | .found d => .found d
    | .missed m => .missed (marks.back inside m)
  | n + 1, marks =>
    match k ⟨position + (n + 1), marks⟩ with
    | .found d => .found d
    | .missed m => eagerly inside position k n (marks.back inside m)

/-- Goes on at a position, or after up to `n` characters more. -/
def reluctantly (inside : Bool) (k : Continuation) : Nat → Nat → Marks → Outcome
  | 0, position, marks =>
    match k ⟨position, marks⟩ with
    | .found d => .found d
    | .missed m => .missed (marks.back inside m)
  | n + 1, position, marks =>
    match k ⟨position, marks⟩ with
    | .found d => .found d
    | .missed m => reluctantly inside k n (position + 1) (marks.back inside m)

/-- Several characters of a set. -/
def characters (text : Array Char) (inside : Bool) (least : Nat) (most : Option Nat)
    (greed : Greed) (s : CharSet) : Matcher := fun c k =>
  let left := text.size - c.position
  if left < least then .missed c.marks
  else
    let count := countOf text s ((most.map (min left)).getD left) c.position
    if count < least then .missed c.marks
    else
      match greed with
      | .greedy => eagerly inside (c.position + least) k (count - least) c.marks
      | .lazy => reluctantly inside k (count - least) (c.position + least) c.marks
      | .possessive => k ⟨c.position + count, c.marks⟩

/-! ## Other repetitions -/

/-- Exactly `n` rounds. -/
def exactly (round : Matcher) : Nat → Matcher
  | 0, c, k => k c
  | n + 1, c, k => round c fun d => exactly round n d k

/-- Up to `n` more rounds, more being better.  After a round without text, which ends where the last
one ended, there is no further one. -/
def upTo (round : Matcher) : Nat → Option Nat → Matcher
  | 0, _, c, k => k c
  | n + 1, last, c, k =>
    if last == some c.position then k c
    else
      match round c fun d => upTo round n (some c.position) d k with
      | .found d => .found d
      | .missed _ => k c

/-- Up to `n` more rounds, fewer being better. -/
def fromNone (round : Matcher) (inside : Bool) : Nat → Option Nat → Matcher
  | n, last, c, k =>
    match k c with
    | .found d => .found d
    | .missed m =>
      let marks := c.marks.back inside m
      match n with
      | 0 => .missed marks
      | n + 1 =>
        if last == some c.position then .missed marks
        else round ⟨c.position, marks⟩ fun d => fromNone round inside n (some c.position) d k

/-- Exactly `n` rounds, each matched by itself. -/
def exactlyAlone (round : Matcher) : Nat → Place → Outcome
  | 0, c => .found c
  | n + 1, c =>
    match round c .found with
    | .found d => exactlyAlone round n d
    | .missed m => .missed m

/-- As many rounds as there are, but no more than `n`, each matched by itself. -/
def allAlone (round : Matcher) : Nat → Option Nat → Place → Place
  | 0, _, c => c
  | n + 1, last, c =>
    if last == some c.position then c
    else
      match round c .found with
      | .found d => allAlone round n (some c.position) d
      | .missed _ => c

/-- Several rounds. -/
def repeated (text : Array Char) (inside : Bool) (least : Nat) (most : Option Nat) (greed : Greed)
    (round : Matcher) : Matcher := fun c k =>
  let more (d : Place) : Nat :=
    let limit := text.size - d.position + 1
    (most.map fun n => min (n - least) limit).getD limit
  match greed with
  | .greedy => exactly round least c fun d => upTo round (more d) none d k
  | .lazy => exactly round least c fun d => fromNone round inside (more d) none d k
  | .possessive =>
    match exactlyAlone round least c with
    | .missed m => .missed m
    | .found d => k (allAlone round (more d) none d)

/-! ## Patterns -/

/-- The position after a text that stands at a position again, character by character up to case. -/
def againAt? (text : Array Char) (folding : Folding) (start : Nat) : Nat → Nat → Option Nat
  | 0, position => some position
  | n + 1, position =>
    match text[start]?, text[position]? with
    | some c, some d =>
      if folding.lower c == folding.lower d then
        againAt? text folding (start + 1) n (position + 1)
      else none
    | _, _ => none

/-- The first match of a pattern at a place after which the rest matches too; `inside` says whether
the pattern is part of a repetition that may give rounds back. -/
def run (text : Array Char) (inside : Bool) : Pattern → Matcher
  | empty, c, k => k c
  | one s, c, k =>
    match text[c.position]? with
    | some x => if s.holds x then k ⟨c.position + 1, c.marks⟩ else .missed c.marks
    | none => .missed c.marks
  | anchor a, c, k => if a.holds text c.position then k c else .missed c.marks
  | seq p q, c, k => run text inside p c fun d => run text inside q d k
  | alt p q, c, k =>
    match run text inside p c k with
    | .found d => .found d
    | .missed m =>
      match run text inside q ⟨c.position, c.marks.back inside m⟩ k with
      | .found d => .found d
      | .missed m => .missed (c.marks.back inside m)
  | rounds least most greed p, c, k =>
    match p.unit? with
    | some s => characters text inside least most greed s c k
    | none => repeated text inside least most greed (run text (inside || greed != .possessive) p) c k
  | group none p, c, k => run text inside p c k
  | group (some n) p, c, k =>
    run text inside p ⟨c.position, c.marks.mark (2 * (n - 1)) c.position⟩ fun d =>
      k ⟨d.position, d.marks.mark (2 * (n - 1) + 1) d.position⟩
  | atomic p, c, k =>
    match run text inside p c .found with
    | .found d => k d
    | .missed m => .missed m
  | ahead negated p, c, k =>
    match run text inside p c .found with
    | .found d => if negated then .missed d.marks else k ⟨c.position, d.marks⟩
    | .missed m => if negated then k ⟨c.position, c.marks.back inside m⟩ else .missed m
  | behind width negated p, c, k =>
    if c.position < width then (if negated then k c else .missed c.marks)
    else
      match run text inside p ⟨c.position - width, c.marks⟩ .found with
      | .found d => if negated then .missed d.marks else k ⟨c.position, d.marks⟩
      | .missed m => if negated then k ⟨c.position, c.marks.back inside m⟩ else .missed m
  | again n folding, c, k =>
    match c.marks.capture? n with
    | some (start, stop) =>
      match againAt? text folding start (stop - start) c.position with
      | some position => k ⟨position, c.marks⟩
      | none => .missed c.marks
    | none => .missed c.marks
  | choice n p q, c, k =>
    if (c.marks.capture? n).isSome then run text inside p c k else run text inside q c k

/-- The end of a text, if a search comes there. -/
def atEnd (text : Array Char) : Continuation := fun c =>
  if c.position == text.size then .found c else .missed c.marks

/-- Whether a pattern that needs at least so many characters matches a text as a whole. -/
def matchesAll (p : Pattern) (least : Nat) (s : String) : Except Fault Bool :=
  let text := s.toList.toArray
  if text.size < least then .ok false
  else
    match run text false p ⟨0, []⟩ (atEnd text) with
    | .found c => if c.marks.hasReversed then .error .reversedCapture else .ok true
    | .missed _ => .ok false

end ClientPlan.Pattern
