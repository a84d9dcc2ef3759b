import ClientPlan.Json.Writer
import ClientPlan.Report.Markup
import ClientPlan.Text.Digit
import ClientPlan.Text.Wrap
import ClientPlan.Workspace.Surroundings

/-!
# Reports

What a command has to say goes to one of two streams: data to the standard output, everything else to
the standard error.  A `Reporter` knows in which form tables are wanted and which messages are
suppressed.  A plain table is a line for each row with tabs between the cells; in JSON it is a list of
objects with the headers as keys; how a table is drawn for a terminal is left to a `Drawing`.
-/

set_option autoImplicit false

namespace ClientPlan

/-! ## Streams -/

/-- What is written to the two streams. -/
structure Streams where
  /-- The standard output. -/
  output : String := ""
  /-- The standard error. -/
  error : String := ""
deriving DecidableEq, Repr

namespace Streams

instance : Inhabited Streams := ⟨{}⟩

/-- One report after another. -/
instance : Append Streams := ⟨fun a b => ⟨a.output ++ b.output, a.error ++ b.error⟩⟩

theorem output_append (a b : Streams) : (a ++ b).output = a.output ++ b.output := rfl

/-- A line of data. -/
def line (text : String) : Streams := ⟨text ++ "\n", ""⟩

/-- A line beside the data. -/
def note (text : String) : Streams := ⟨"", text ++ "\n"⟩

/-- Reports one after another. -/
def concat (l : List Streams) : Streams := l.foldl (· ++ ·) {}

end Streams

/-! ## Reporters -/

/-- The form of a table. -/
inductive Format where
  /-- A list of objects. -/
  | json
  /-- Lines with tabs. -/
  | plain
  /-- A drawing for a terminal. -/
  | rich
deriving DecidableEq, Repr

/-- What is written where a table is drawn, from its headers, its rows and its title; nothing comes of
a table that cannot be drawn. -/
abbrev Drawing := List String → List (List String) → Option String → Option Streams

/-- The name of a format. -/
def Format.name : Format → String
  | json => "json"
  | plain => "plain"
  | rich => "rich"

/-- What is asked of a reporter. -/
structure Wishes where
  /-- The format, unless it is left open. -/
  format : Option Format := none
  /-- Whether colours are ruled out. -/
  colorless : Bool := false
  /-- Whether informational messages are suppressed. -/
  quiet : Bool := false
  /-- Whether messages for debugging are shown. -/
  verbose : Bool := false
deriving DecidableEq, Repr

/-- How reports are written. -/
structure Reporter where
  /-- The format of tables. -/
  format : Format
  /-- Whether colours are ruled out; messages are wrapped only if they are not. -/
  colorless : Bool
  /-- Whether informational messages are suppressed. -/
  quiet : Bool
  /-- Whether messages for debugging are shown. -/
  verbose : Bool
  /-- The number of columns of a line on the standard error. -/
  width : Nat
deriving DecidableEq, Repr

/-- Whether the environment rules out colours. -/
def Surroundings.isColorless (s : Surroundings) : Bool :=
  s.environment.contains "NO_COLOR" || s.environment.get? "TERM" == some "dumb"

/-- The digits that are no decimal digits, as closed ranges of code points. -/
def loneDigitRanges : List (Nat × Nat) := [
  (0xB2, 0xB3), (0xB9, 0xB9), (0x1369, 0x1371), (0x19DA, 0x19DA), (0x2070, 0x2070), (0x2074, 0x2079),
  (0x2080, 0x2089), (0x2460, 0x2468), (0x2474, 0x247C), (0x2488, 0x2490), (0x24EA, 0x24EA),
  (0x24F5, 0x24FD), (0x24FF, 0x24FF), (0x2776, 0x277E), (0x2780, 0x2788), (0x278A, 0x2792),
  (0x10A40, 0x10A43), (0x10E60, 0x10E68), (0x11052, 0x1105A), (0x1F100, 0x1F10A)]

/-- Whether a character is a digit of any kind. -/
def isAnyDigit (c : Char) : Bool :=
  (Text.digitValue? c).isSome || Text.inRanges loneDigitRanges c.toNat

/-- The number of columns of a line if the environment does not say it. -/
def defaultWidth : Nat := 80

/-- The number of columns of a line.  Digits in the environment have to be a number. -/
def Surroundings.lineWidth (s : Surroundings) : Except Failure Nat :=
  match s.envValue? "COLUMNS" with
  | none => .ok defaultWidth
  | some text =>
    if !text.toList.all isAnyDigit then .ok defaultWidth
    else match Text.readInteger text with
      | some n => .ok n.toNat
      | none => .error (.malformed .badScalar)

/-- How log records are written. -/
inductive LogLevel where
  | debug
  | warning
deriving DecidableEq, Repr

/-- The name of a level. -/
def LogLevel.name : LogLevel → String
  | debug => "DEBUG"
  | warning => "WARNING"

/-- Where log records go. -/
structure LogRoute where
  /-- The least level that is written. -/
  level : LogLevel
  /-- The number of places to which records are written. -/
  handlers : Nat := 1
  /-- Whether records also go to the places of more general logs. -/
  propagates : Bool := false
deriving DecidableEq, Repr

namespace Reporter

/-- The reporter that is asked for.  A format that is left open is rich on a terminal with colours. -/
def ofWishes (s : Surroundings) (terminal : Bool) (w : Wishes) : Except Failure Reporter := do
  let colorless := w.colorless || s.isColorless
  return {
    format := w.format.getD (if terminal && !colorless then .rich else .plain)
    colorless
    quiet := w.quiet
    verbose := w.verbose
    width := ← s.lineWidth }

/-! ### Data -/

/-- A value as JSON. -/
def json (v : Value) : Streams := .line (Json.write .unicode v)

/-- A row as an object: the headers are the keys. -/
def rowObject (headers row : List String) : Value :=
  .ofEntries ((headers.zip row).map fun (header, cell) => (.str header, .str cell))

/-- A row as a line. -/
def rowLine (row : List String) : Streams := .line ("\t".intercalate row)

/-- A table, unless it cannot be drawn. -/
def table (r : Reporter) (draw : Drawing) (headers : List String) (rows : List (List String))
    (title : Option String) : Option Streams :=
  match r.format with
  | .json => some (json (.list (rows.map (rowObject headers))))
  | .plain => some (.concat ((headers :: rows).map rowLine))
  | .rich => draw headers rows title

/-! ### Messages -/

/-- A character that moves the cursor or rings a bell, and is not shown. -/
def isCursorControl (c : Char) : Bool := [7, 8, 11, 12, 13].contains c.toNat

/-- The lines of a text within a number of columns. -/
def linesWithin (width : Nat) (text : List Char) : List (List Char) :=
  Text.wrap width (text.filter fun c => !isCursorControl c)

/-- Lines on the standard error; where there are no columns nothing is written. -/
def noteLines (r : Reporter) (lines : List (List Char)) : Streams :=
  if r.width == 0 then {} else .note (String.ofList (['\n'].intercalate lines))

/-- A message that is `plain` without colours; with colours it is `marked`. -/
def message (r : Reporter) (plain : String) (marked : List Char) : Streams :=
  if r.colorless then .note plain else r.noteLines (linesWithin r.width (Markup.shown marked))

/-- An informational message. -/
def info (r : Reporter) (text : String) : Streams :=
  if r.quiet then {} else r.message text (Markup.escape text.toList)

/-- A message of success. -/
def success (r : Reporter) (text : String) : Streams :=
  if r.quiet then {}
  else r.message text ("[green]".toList ++ Markup.escape text.toList ++ "[/green]".toList)

/-- A warning. -/
def warning (r : Reporter) (text : String) : Streams :=
  r.message ("Warning: " ++ text)
    ("[yellow]Warning:[/yellow] ".toList ++ Markup.escape text.toList)

/-- An error. -/
def error (r : Reporter) (text : String) : Streams :=
  r.message ("Error: " ++ text) ("[bold red]Error:[/bold red] ".toList ++ Markup.escape text.toList)

/-- A message for debugging. -/
def debug (r : Reporter) (text : String) : Streams :=
  if r.verbose then
    r.message ("[debug] " ++ text)
      ("[dim]\\[debug] ".toList ++ Markup.escape text.toList ++ "[/dim]".toList)
  else {}

/-! ### Log records -/

/-- How log records are written. -/
def logRoute (r : Reporter) : LogRoute := { level := if r.verbose then .debug else .warning }

/-- The number of columns of the text of a log record; the level and a blank take the others. -/
def recordWidth (width : Nat) : Nat := if width < 2 then 0 else if width < 4 then 1 else max 2 (width - 9)

/-- The level of a log record in a number of columns. -/
def levelCell (width : Nat) (level : LogLevel) : List Char :=
  let name := level.name.toList
  if name.length ≤ width then name ++ List.replicate (width - name.length) ' '
  else if width == 0 then []
  else name.take (width - 1) ++ ['…']

/-- A record of a warning: the level stands in a column of its own, and lines are filled up. -/
def logWarning (r : Reporter) (text : String) : Streams :=
  let room := recordWidth r.width
  let level := levelCell (r.width - room - 1) .warning ++ [' ']
  let lines := if room == 0 then [[]] else linesWithin room text.toList
  r.noteLines (lines.mapIdx fun n line =>
    (if n == 0 then level else List.replicate level.length ' ') ++ line ++
      List.replicate (room - Text.width line) ' ')

end Reporter

end ClientPlan
