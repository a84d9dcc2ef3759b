import ClientPlan.Pattern.Escape
import ClientPlan.Text.Identifier

/-!
# Reading patterns

`ofText` reads the written form of a pattern.  A text that is no pattern, such as one with an open
parenthesis or a repetition of nothing, is malformed; the other faults come of what cannot be counted
or understood.  The first fault from the left is the one that counts.
-/

set_option autoImplicit false

namespace ClientPlan.Pattern

/-! ## Repetitions -/

/-- The number of rounds from which on there are too many. -/
def roundsLimit : Nat := 4294967295

/-- The number that the digits of a bound write, if there are any. -/
def readBound (digits : List Char) : Except Fault (Option Nat) :=
  if digits.isEmpty then .ok none
  else if Text.maxDigits < digits.length then .error .unreadableCount
  else
    let n := digits.foldl (fun n c => n * 10 + (c.toNat - 48)) 0
    if n < roundsLimit then .ok (some n) else .error .tooManyRounds

/-- The digits of the bounds in braces and the rest, if the text goes on as a repetition. -/
def bounds? (r : List Char) : Option (List Char × List Char × List Char) :=
  if r.head? == some '\x7d' then none
  else
    let low := r.takeWhile Char.isDigit
    let (high, rest) := match r.drop low.length with
      | ',' :: t => (t.takeWhile Char.isDigit, t.dropWhile Char.isDigit)
      | t => (low, t)
    match rest with
    | '\x7d' :: rest => some (low, high, rest)
    | _ => none

/-- Repeats the last item. -/
def readRounds (st : Reading) (least : Nat) (most : Option Nat) (r : List Char) :
    Option (Reading × List Char) :=
  let (greed, r) : Greed × List Char := match r with
    | '?' :: r => (.lazy, r)
    | '+' :: r => (.possessive, r)
    | r => (.greedy, r)
  match st.frame.items with
  | item :: items =>
    if item.isRepeatable && most.all (least ≤ ·) then
      let repeated : Item := .part (.rounds least most greed (ofSeq item.parts))
      some ({ st with
        frame := { st.frame with items := repeated :: items }
        isBroken := st.isBroken || st.modes.contains 't' }, r)
    else none
  | [] => none

/-- Reads a repetition in braces; without bounds the brace stands for itself. -/
def readBraces (st : Reading) (r : List Char) : Except Fault (Reading × List Char) :=
  match bounds? r with
  | none => .ok (st.pushCode 0x7B, r)
  | some (_, _, ['\\']) => .error .malformed
  | some (low, high, r) => do
    let least ← readBound low
    let most ← readBound high
    wanted (readRounds st (least.getD 0) most r)

/-! ## Parentheses -/

/-- The rest after a comment in parentheses. -/
def afterComment : List Char → Option (List Char)
  | [] => none
  | ')' :: r => some r
  | '\\' :: _ :: r => afterComment r
  | _ :: r => afterComment r

/-- The reading after the parenthesis of a capture. -/
def openCapture (st : Reading) : Reading :=
  { st.enter (.capture (st.count + 1)) st.mode with count := st.count + 1 }

/-- Reads the opening of a capture with a name. -/
def readNamed (st : Reading) (r : List Char) : Option (Reading × List Char) := do
  let (name, r) ← until? '>' r
  let name' := String.ofList name
  if Text.isIdentifier name && (st.names.lookup name').isNone then
    let st' := openCapture st
    return ({ st' with names := (name', st'.count) :: st'.names }, r)
  else none

/-- Reads a reference to a capture by its name. -/
def readNamedAgain (st : Reading) (r : List Char) : Option (Reading × List Char) := do
  let (name, r) ← until? ')' r
  readAgain st (← st.names.lookup (String.ofList name)) r

/-- From this number on there are no captures. -/
def capturesLimit : Nat := 1073741823

/-- Reads the opening of a choice that depends on a capture, which has a name or a number. -/
def readChoice (st : Reading) (r : List Char) : Option (Reading × List Char) := do
  let (name, r) ← until? ')' r
  if Text.isIdentifier name then
    let n ← st.names.lookup (String.ofList name)
    if st.isInReach n then some (st.enter (.choice n) st.mode, r) else none
  else
    let n := (← Text.readInteger (String.ofList name)).toNat
    if 0 < n && n < capturesLimit && st.isInReach n then
      some ({ st.enter (.choice n) st.mode with asked := n :: st.asked }, r)
    else none

/-- Whether a letter is the name of a mode. -/
def isModeLetter (c : Char) : Bool := ['i', 'm', 's', 'x', 'a', 'u', 't'].contains c

/-- Reads names of modes: those for the whole pattern stand at its start, others open a parenthesis.
The mode `t`, in which nothing is repeated, is one for the whole pattern. -/
def readModes (st : Reading) (r : List Char) : Option (Reading × List Char) :=
  let on := r.takeWhile isModeLetter
  let isConsistent := !(on.contains 'a' && on.contains 'u')
  match r.dropWhile isModeLetter with
  | ')' :: rest =>
    if !on.isEmpty && isConsistent && st.around.isEmpty && st.frame.branches.isEmpty &&
      st.frame.items.isEmpty
    then some ({ st with mode := st.mode.adjust on [], modes := on ++ st.modes }, rest) else none
  | ':' :: rest =>
    if !on.isEmpty && isConsistent && !on.contains 't' then
      some (st.enter .modes (st.mode.adjust on []), rest)
    else none
  | '-' :: rest =>
    let off := rest.takeWhile isModeLetter
    match rest.dropWhile isModeLetter with
    | ':' :: rest =>
      if isConsistent && !on.contains 't' && !off.isEmpty && !off.any ['a', 'u', 't'].contains &&
        !on.any off.contains
      then some (st.enter .modes (st.mode.adjust on off), rest) else none
    | _ => none
  | _ => none

/-- Reads what follows an opening parenthesis. -/
def readOpening (st : Reading) (r : List Char) : Option (Reading × List Char) :=
  match r with
  | '?' :: r =>
    match r with
    | 'P' :: '<' :: r => readNamed st r
    | 'P' :: '=' :: r => readNamedAgain st r
    | ':' :: r => some (st.enter .plain st.mode, r)
    | '>' :: r => some (st.enter .atomic st.mode, r)
    | '=' :: r => some (st.enter (.ahead false) st.mode, r)
    | '!' :: r => some (st.enter (.ahead true) st.mode, r)
    | '<' :: '=' :: r => some (st.enter (.behind false st.count) st.mode, r)
    | '<' :: '!' :: r => some (st.enter (.behind true st.count) st.mode, r)
    | '(' :: r => readChoice st r
    | '#' :: r => (afterComment r).map fun r => (st, r)
    | r => readModes st r
  | r => some (openCapture st, r)

/-! ## Whole patterns -/

/-- Whether a character may stand between the parts of a verbose pattern. -/
def isFiller (c : Char) : Bool := c.toNat == 0x20 || (9 ≤ c.toNat && c.toNat ≤ 13)

/-- The rest after a comment that goes to the end of the line.  A line feed after a backslash does not
end the line. -/
def afterLine : List Char → Option (List Char)
  | [] => some []
  | '\n' :: r => some r
  | '\\' :: _ :: r => afterLine r
  | ['\\'] => none
  | _ :: r => afterLine r

/-- Reads what starts with the character `c`, which is no closing parenthesis. -/
def readPart (st : Reading) (c : Char) (r : List Char) : Except Fault (Reading × List Char) :=
  if st.mode.verbose && isFiller c then .ok (st, r)
  else if st.mode.verbose && c == '#' then wanted ((afterLine r).map fun r => (st, r))
  else if c == '\\' then wanted (readEscape st r)
  else if c == '[' then wanted (readSet st r)
  else if c == '(' then wanted (readOpening st r)
  else if c == '|' then wanted (st.nextBranch?.map fun st => (st, r))
  else if c == '*' then wanted (readRounds st 0 none r)
  else if c == '+' then wanted (readRounds st 1 none r)
  else if c == '?' then wanted (readRounds st 0 (some 1) r)
  else if c == '\x7b' then readBraces st r
  else if c == '.' then
    .ok (st.push (.one (if st.mode.dotAll then .all else .withinLine)), r)
  else if c == '^' then
    .ok (st.push (.anchor (if st.mode.multiline then .lineStart else .start)), r)
  else if c == '$' then
    .ok (st.push (.anchor (if st.mode.multiline then .lineEnd else .lastLineEnd)), r)
  else .ok (st.pushCode c.toNat, r)

/-- Reads part after part. -/
def readParts (st : Reading) (s : List Char) : Except Fault Whole :=
  match s with
  | [] => if st.around.isEmpty then st.finish true else .error .malformed
  | c :: r =>
    if c == ')' then
      match st.around with
      | [] => st.finish false
      | f :: around => readParts (st.leave f around) r
    else
      match readPart st c r with
      | .error e => .error e
      | .ok (st, t) => if _h : t.length ≤ r.length then readParts st t else .error .malformed
termination_by s.length
decreasing_by all_goals simp only [List.length_cons]; omega

/-- The pattern that a text is the written form of. -/
def ofText (s : String) : Except Fault Whole := readParts {} s.toList

end ClientPlan.Pattern
