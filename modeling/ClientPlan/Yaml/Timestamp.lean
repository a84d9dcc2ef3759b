import ClientPlan.Document.Calendar
import ClientPlan.Text.Blank

/-!
# Written dates and moments

A date is written as year, month and day; a moment adds the time of day after a `T` or blanks, and may
add a fraction of a second and an offset.  Month, day, hour and the hours of the offset may have one
digit.
-/

set_option autoImplicit false

namespace ClientPlan.Yaml

/-- A time of day with its offset, as written. -/
structure WrittenTime where
  /-- The hour. -/
  hour : Nat
  /-- The minute. -/
  minute : Nat
  /-- The second. -/
  second : Nat
  /-- The digits of the fraction of a second. -/
  fraction : List Char
  /-- The offset in minutes, if there is one. -/
  offset : Option Int
deriving DecidableEq, Repr

/-- A date, with a time of day if there is one, as written. -/
structure Timestamp where
  /-- The date. -/
  date : Date
  /-- The number of characters of the date. -/
  dateLength : Nat
  /-- The time of day. -/
  time : Option WrittenTime
deriving DecidableEq, Repr

namespace Timestamp

/-- The number that decimal digits write. -/
def number (digits : List Char) : Nat := digits.foldl (fun n c => n * 10 + (c.toNat - 48)) 0

/-- A number of at least `least` and at most `most` digits at the start, and what follows it. -/
def digits? (least most : Nat) (s : List Char) : Option (Nat × List Char) :=
  let digits := (s.take most).takeWhile Char.isDigit
  if least ≤ digits.length then some (number digits, s.drop digits.length) else none

/-- What follows the character `c` at the start. -/
def after? (c : Char) : List Char → Option (List Char)
  | d :: r => if d == c then some r else none
  | [] => none

/-- A blank or a tab. -/
def isGap (c : Char) : Bool := c == ' ' || c == '\t'

/-- The offset that a text is, with blanks in front of it; the empty text is none. -/
def offset? (s : List Char) : Option (Option Int) :=
  if s.isEmpty then some none
  else
    match s.dropWhile isGap with
    | ['Z'] => some (some 0)
    | sign :: r => do
      let east ← if sign == '+' then some true else if sign == '-' then some false else none
      let (hours, r) ← digits? 1 2 r
      let (minutes, r) ← if r.isEmpty then some (0, r) else do digits? 2 2 (← after? ':' r)
      if r.isEmpty then
        let minutes : Int := (hours * 60 + minutes : Nat)
        some (some (if east then minutes else -minutes))
      else none
    | [] => none

/-- The time of day that a text is. -/
def time? (s : List Char) : Option WrittenTime := do
  let (hour, r) ← digits? 1 2 s
  let (minute, r) ← digits? 2 2 (← after? ':' r)
  let (second, r) ← digits? 2 2 (← after? ':' r)
  let (fraction, r) := match r with
    | '.' :: r => (r.takeWhile Char.isDigit, r.dropWhile Char.isDigit)
    | r => ([], r)
  return ⟨hour, minute, second, fraction, ← offset? r⟩

/-- What follows the mark between a date and a time of day. -/
def afterDate? : List Char → Option (List Char)
  | [] => none
  | c :: r =>
    if c == 'T' || c == 't' then some r
    else if isGap c then some (r.dropWhile isGap)
    else none

/-- The date or moment that a text is; a line feed at its end does not count. -/
def ofText? (s : List Char) : Option Timestamp := do
  let s := Text.dropLineEnd s
  let (year, r) ← digits? 4 4 s
  let (month, r) ← digits? 1 2 (← after? '-' r)
  let (day, r) ← digits? 1 2 (← after? '-' r)
  let date : Date := ⟨year, month, day⟩
  let dateLength := s.length - r.length
  if r.isEmpty then return ⟨date, dateLength, none⟩
  else return ⟨date, dateLength, some (← time? (← afterDate? r))⟩

/-- Whether a plain scalar is a date or a moment: a date by itself has two digits for month and
day. -/
def isPlain (s : List Char) : Bool :=
  (ofText? s).any fun t => t.time.isSome || t.dateLength == 10

/-- The microseconds that the digits of a fraction of a second stand for. -/
def microseconds (fraction : List Char) : Nat :=
  let digits := fraction.take 6
  number (digits ++ List.replicate (6 - digits.length) '0')

/-- The moment that a written one stands for. -/
def moment (date : Date) (t : WrittenTime) : Moment where
  date := date
  hour := t.hour
  minute := t.minute
  second := t.second
  microsecond := microseconds t.fraction
  offset := t.offset

end Timestamp

end ClientPlan.Yaml
