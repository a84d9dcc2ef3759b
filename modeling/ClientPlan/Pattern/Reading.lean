import ClientPlan.Pattern.Basic
import ClientPlan.Pattern.Fault

/-!
# The state of reading a pattern

A pattern is read from left to right.  A stack of frames holds what is open: each open parenthesis has
a frame with the alternatives and the items read so far.  What is wrong with the pattern as a whole,
such as a look back at a text of unknown length, is noted and found out at its end.
-/

set_option autoImplicit false

namespace ClientPlan.Pattern

/-- What is read if there is something. -/
def wanted {α : Type} : Option α → Except Fault α
  | some a => .ok a
  | none => .error .malformed

/-- How the following parts of a pattern are to be understood. -/
structure Mode where
  /-- Whether case is ignored. -/
  ignoreCase : Bool := false
  /-- Whether lines have a start and an end of their own. -/
  multiline : Bool := false
  /-- Whether the point also stands for the line feed. -/
  dotAll : Bool := false
  /-- Whether blanks and comments may stand between the parts. -/
  verbose : Bool := false
  /-- Whether classes hold ASCII characters only. -/
  ascii : Bool := false
deriving DecidableEq, Repr

namespace Mode

/-- How the case of characters is treated. -/
def folding (m : Mode) : Folding :=
  if !m.ignoreCase then .none else if m.ascii then .ascii else .unicode

/-- The mode with some modes turned on and others off. -/
def adjust (m : Mode) (on off : List Char) : Mode :=
  let get (c : Char) (b : Bool) : Bool := (b || on.contains c) && !off.contains c
  { ignoreCase := get 'i' m.ignoreCase
    multiline := get 'm' m.multiline
    dotAll := get 's' m.dotAll
    verbose := get 'x' m.verbose
    ascii := on.contains 'a' || (m.ascii && !on.contains 'u') }

end Mode

/-- What a parenthesis was opened for. -/
inductive Opening where
  /-- The pattern as a whole, without a parenthesis. -/
  | whole
  /-- A capture. -/
  | capture (number : Nat)
  /-- Nothing but grouping. -/
  | plain
  /-- Modes of its own. -/
  | modes
  /-- A pattern of which only the first match counts. -/
  | atomic
  /-- A look ahead. -/
  | ahead (negated : Bool)
  /-- A look back, with the number of captures opened before it. -/
  | behind (negated : Bool) (before : Nat)
  /-- A choice that depends on a capture. -/
  | choice (number : Nat)
deriving DecidableEq, Repr

/-- A part of an alternative. -/
inductive Item where
  /-- A single part. -/
  | part (p : Pattern)
  /-- The parts between plain parentheses, which can be repeated together. -/
  | group (parts : List Pattern)
deriving DecidableEq, Repr

namespace Item

/-- The parts that an item stands for. -/
def parts : Item → List Pattern
  | part p => [p]
  | group parts => parts

/-- Whether an item may be repeated. -/
def isRepeatable : Item → Bool
  | part p => p.isRepeatable
  | group _ => true

end Item

/-- What has been read since a parenthesis was opened. -/
structure Frame where
  /-- What it was opened for. -/
  opening : Opening
  /-- The mode that is in force again once it is closed. -/
  outer : Mode
  /-- The alternatives that are complete, the latest first. -/
  branches : List (List Pattern) := []
  /-- The items of the last alternative, the latest first. -/
  items : List Item := []

namespace Frame

/-- The frame with one more item. -/
def push (f : Frame) (item : Item) : Frame := { f with items := item :: f.items }

/-- The parts of the last alternative. -/
def parts (f : Frame) : List Pattern := f.items.reverse.flatMap Item.parts

/-- All alternatives in order. -/
def alternatives (f : Frame) : List (List Pattern) := (f.parts :: f.branches).reverse

end Frame

/-- A pattern as it is used: the pattern itself, and the least length of a text that it matches. -/
structure Whole where
  /-- The pattern. -/
  pattern : Pattern
  /-- The least length of a text that it matches. -/
  least : Nat
deriving DecidableEq, Repr

/-- What has been read of a pattern. -/
structure Reading where
  /-- The mode in force. -/
  mode : Mode := {}
  /-- The innermost frame. -/
  frame : Frame := ⟨.whole, {}, [], []⟩
  /-- The frames around it, the nearest first. -/
  around : List Frame := []
  /-- The number of captures opened so far. -/
  count : Nat := 0
  /-- The captures with a name. -/
  names : List (String × Nat) := []
  /-- The widths of the captures that are closed. -/
  widths : List (Nat × Width) := []
  /-- The captures that choices depend on. -/
  asked : List Nat := []
  /-- The letters of the modes of the whole pattern. -/
  modes : List Char := []
  /-- Whether something is wrong that is found out at the end. -/
  isBroken : Bool := false

namespace Reading

/-- The reading with one more item. -/
def push (st : Reading) (p : Pattern) : Reading := { st with frame := st.frame.push (.part p) }

/-- The reading with one more item for a code point. -/
def pushCode (st : Reading) (n : Nat) : Reading :=
  st.push (.one (.single n st.mode.folding))

/-- The reading after a parenthesis with the given mode inside. -/
def enter (st : Reading) (opening : Opening) (inner : Mode) : Reading :=
  { st with
    mode := inner
    frame := ⟨opening, st.mode, [], []⟩
    around := st.frame :: st.around }

/-- The width of a closed capture. -/
def widthOf (st : Reading) (number : Nat) : Width :=
  ((st.widths.find? fun e => e.1 == number).map Prod.snd).getD (0, some 0)

/-- Whether a capture is closed. -/
def isClosed (st : Reading) (number : Nat) : Bool := st.widths.any fun e => e.1 == number

/-- The number of captures that were opened before the outermost look back that is open. -/
def beforeLookBack? (st : Reading) : Option Nat :=
  (st.frame :: st.around).reverse.findSome? fun f =>
    match f.opening with
    | .behind _ before => some before
    | _ => none

/-- Whether a look back, if one is open, leaves a capture to be asked for: it must be closed and stand
before the look back. -/
def isInReach (st : Reading) (number : Nat) : Bool :=
  st.beforeLookBack?.all fun before => st.isClosed number && number ≤ before

/-- The greatest width that one can look back. -/
def maxLookBack : Nat := 4294967295

/-- The item that a complete frame stands for, and whether something is wrong with it. -/
def item (st : Reading) (f : Frame) : Item × Bool :=
  let parts := combine st.mode.folding f.alternatives
  let p := ofSeq parts
  match f.opening with
  | .whole | .plain => (.group parts, false)
  | .capture n => (.part (.group (some n) p), false)
  | .modes => (.part (.group none p), false)
  | .atomic => (.part (.atomic p), false)
  | .ahead negated => (.part (.ahead negated p), false)
  | .behind negated _ =>
    let w := p.width st.widthOf
    (.part (.behind w.1 negated p), !(w.2 == some w.1 && w.1 ≤ maxLookBack))
  | .choice n =>
    let alternatives := f.alternatives.map ofSeq
    (.part (.choice n (alternatives.headD .empty) (alternatives.tail.headD .empty)), false)

/-- The reading after a closing parenthesis. -/
def leave (st : Reading) (f : Frame) (around : List Frame) : Reading :=
  let (item, isBroken) := st.item st.frame
  let widths := match st.frame.opening with
    | .capture n => (n, (ofSeq item.parts).width st.widthOf) :: st.widths
    | _ => st.widths
  { st with
    mode := st.frame.outer
    frame := f.push item
    around
    widths
    isBroken := st.isBroken || isBroken }

/-- The reading after a bar.  A choice that depends on a capture has no third alternative. -/
def nextBranch? (st : Reading) : Option Reading :=
  let isFull := match st.frame.opening with
    | .choice _ => !st.frame.branches.isEmpty
    | _ => false
  if isFull then none
  else some { st with frame :=
    { st.frame with branches := st.frame.parts :: st.frame.branches, items := [] } }

/-- The pattern, if nothing is wrong with it; `isClean` says that the text ends here. -/
def finish (st : Reading) (isClean : Bool) : Except Fault Whole :=
  if st.modes.contains 'a' && st.modes.contains 'u' then .error .modesDisagree
  else if isClean && !st.isBroken && st.asked.all (· ≤ st.count) then
    let p := ofSeq (st.item st.frame).1.parts
    .ok ⟨p, (p.width st.widthOf).1⟩
  else .error .malformed

end Reading

end ClientPlan.Pattern
