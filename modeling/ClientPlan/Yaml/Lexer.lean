import ClientPlan.Yaml.BlockScalar
import ClientPlan.Yaml.PlainScalar
import ClientPlan.Yaml.Property
import ClientPlan.Yaml.QuotedScalar

/-!
# The tokens of a stream

`Token.ofSource` cuts a source into tokens.  Indentation is turned into tokens for the start and the
end of blocks.  A key of a mapping is recognised only by the colon after it, so the places where a
key may have started are remembered as candidates, one for each level of brackets and braces; the
colon inserts the tokens that belong in front of the key.  A candidate expires at the end of its line
or after 1024 characters.

A token at which a key may have started is not handed on as long as the key is undecided.  So where a
source turns out to be broken before that, the tokens end there (`Lexer.broken`).
-/

set_option autoImplicit false

namespace ClientPlan.Yaml

/-- A place where a key may have started. -/
structure KeyCandidate where
  /-- The number of tokens before it. -/
  position : Nat
  /-- Whether nothing but a key can stand there. -/
  required : Bool
  /-- The number of characters before it. -/
  index : Nat
  /-- The line. -/
  line : Nat
  /-- The column. -/
  column : Nat

/-- The state of cutting a source. -/
structure Lexer where
  /-- What has not been read. -/
  rest : Source
  /-- The number of open brackets and braces. -/
  depth : Nat := 0
  /-- The column of the innermost block. -/
  indent : Int := -1
  /-- The columns of the blocks around it, the nearest first. -/
  indents : List Int := []
  /-- Whether a key may start here. -/
  keyAllowed : Bool := true
  /-- The candidates by the level of brackets and braces. -/
  candidates : List (Nat × KeyCandidate) := []
  /-- The tokens read so far. -/
  tokens : Array Token := #[]

namespace Lexer

/-- The greatest number of characters between the start of a key and its colon. -/
def maxKeyLength : Nat := 1024

/-! ## Steps that read nothing -/

/-- One more token. -/
def push (l : Lexer) (t : Token) : Lexer := { l with tokens := l.tokens.push t }

/-- Goes on at another place. -/
def go (l : Lexer) (rest : Source) : Lexer := { l with rest }

/-- Says whether a key may start. -/
def allowKey (l : Lexer) (allowed : Bool) : Lexer := { l with keyAllowed := allowed }

/-- The candidate at the current level. -/
def candidate? (l : Lexer) : Option KeyCandidate := l.candidates.lookup l.depth

/-- No candidate at the current level. -/
def dropCandidate (l : Lexer) : Lexer :=
  { l with candidates := l.candidates.filter fun e => e.1 != l.depth }

/-- The candidate at the current level is no key. -/
def refuseCandidate (l : Lexer) : Except Fault Lexer :=
  if l.candidate?.any fun k => k.required then .error .malformed else .ok l.dropCandidate

/-- A key may have started here. -/
def addCandidate (l : Lexer) : Except Fault Lexer :=
  if !l.keyAllowed then .ok l
  else do
    let l ← l.refuseCandidate
    let k : KeyCandidate := {
      position := l.tokens.size
      required := l.depth == 0 && l.indent == l.rest.column
      index := l.rest.index
      line := l.rest.line
      column := l.rest.column }
    return { l with candidates := (l.depth, k) :: l.candidates }

/-- Whether a candidate has expired. -/
def isStale (l : Lexer) (k : KeyCandidate) : Bool :=
  k.line != l.rest.line || decide (k.index + maxKeyLength < l.rest.index)

/-- No candidates that have expired. -/
def dropStale (l : Lexer) : Except Fault Lexer :=
  if l.candidates.any fun e => l.isStale e.2 && e.2.required then .error .malformed
  else .ok { l with candidates := l.candidates.filter fun e => !l.isStale e.2 }

/-- The columns of the blocks that reach up to `column`, and how many blocks end before it. -/
def outerBlocks (column : Int) : Int → List Int → Int × List Int × Nat
  | indent, [] => (indent, [], 0)
  | indent, outer :: r =>
    if column < indent then
      let (indent, indents, n) := outerBlocks column outer r
      (indent, indents, n + 1)
    else (indent, outer :: r, 0)

/-- Ends all blocks that do not reach up to `column`. -/
def endBlocks (l : Lexer) (column : Int) : Lexer :=
  if l.depth != 0 then l
  else
    let (indent, indents, n) := outerBlocks column l.indent l.indents
    { l with indent, indents, tokens := l.tokens ++ Array.replicate n .blockEnd }

/-- Starts a block at `column`, unless there is one; the token goes to the given position. -/
def startBlock (l : Lexer) (column position : Nat) (t : Token) : Lexer :=
  if l.depth == 0 && l.indent < column then
    { l with
      indent := column
      indents := l.indent :: l.indents
      tokens := l.tokens.insertIdxIfInBounds position t }
  else l

/-! ## Blanks -/

/-- Skips blanks, comments and line breaks.  After a line break outside of brackets and braces a key
may start. -/
def skipBlanks (l : Lexer) : Lexer :=
  let t := l.rest.skip (· == ' ')
  let u := if t.peek == '#' then t.skip fun c => !endsLine c else t
  if isBreak u.peek then
    let v := u.lineBreak.2
    if _h : v.length < l.rest.length then
      skipBlanks { l with rest := v, keyAllowed := l.keyAllowed || l.depth == 0 }
    else l.go u
  else l.go u
termination_by l.rest.length
decreasing_by exact _h

/-- Skips a byte order mark at the start of the stream. -/
def skipMark (l : Lexer) : Lexer :=
  if l.rest.index == 0 && l.rest.peek == byteOrderMark then l.go (l.rest.drop 1) else l

/-! ## Structure -/

/-- A place between documents: all blocks end. -/
def endDocument (l : Lexer) : Except Fault Lexer := do
  let l ← (l.endBlocks (-1)).refuseCandidate
  return l.allowKey false

/-- A token that separates documents. -/
def documentToken (l : Lexer) (t : Token) (rest : Source) : Except Fault Lexer := do
  return ((← l.endDocument).push t).go rest

/-- A directive. -/
def directive (l : Lexer) : Except Fault Lexer := do
  let l ← l.endDocument
  let (t, rest) ← readDirective (l.rest.drop 1)
  return (l.push t).go rest

/-- An opening bracket or brace. -/
def openFlow (l : Lexer) (t : Token) : Except Fault Lexer := do
  let l ← l.addCandidate
  return ({ l with depth := l.depth + 1, keyAllowed := true }.push t).go (l.rest.drop 1)

/-- A closing bracket or brace. -/
def closeFlow (l : Lexer) (t : Token) : Except Fault Lexer := do
  let l ← l.refuseCandidate
  return ({ l with depth := l.depth - 1, keyAllowed := false }.push t).go (l.rest.drop 1)

/-- A comma. -/
def comma (l : Lexer) : Except Fault Lexer := do
  let l ← l.refuseCandidate
  return ((l.allowKey true).push .flowEntry).go (l.rest.drop 1)

/-- A hyphen in front of an item. -/
def hyphen (l : Lexer) : Except Fault Lexer :=
  if l.depth == 0 && !l.keyAllowed then .error .malformed
  else do
    let l := l.startBlock l.rest.column l.tokens.size .blockSequenceStart
    let l ← l.refuseCandidate
    return ((l.allowKey true).push .blockEntry).go (l.rest.drop 1)

/-- A question mark in front of a key. -/
def question (l : Lexer) : Except Fault Lexer :=
  if l.depth == 0 && !l.keyAllowed then .error .malformed
  else do
    let l := l.startBlock l.rest.column l.tokens.size .blockMappingStart
    let l ← l.refuseCandidate
    return ((l.allowKey (l.depth == 0)).push .key).go (l.rest.drop 1)

/-- A colon after a key: the tokens in front of the key are inserted now. -/
def colonAfter (l : Lexer) (k : KeyCandidate) : Lexer :=
  let l := l.dropCandidate
  let l := { l with tokens := l.tokens.insertIdxIfInBounds k.position .key }
  let l := l.startBlock k.column k.position .blockMappingStart
  ((l.allowKey false).push .value).go (l.rest.drop 1)

/-- A colon. -/
def colon (l : Lexer) : Except Fault Lexer :=
  match l.candidate? with
  | some k => .ok (l.colonAfter k)
  | none =>
    if l.depth == 0 && !l.keyAllowed then .error .malformed
    else do
      let l := l.startBlock l.rest.column l.tokens.size .blockMappingStart
      let l ← (l.allowKey (l.depth == 0)).refuseCandidate
      return (l.push .value).go (l.rest.drop 1)

/-! ## Nodes -/

/-- A token that may start a key. -/
def keyToken (l : Lexer) (read : Source → Except Fault (Token × Source)) : Except Fault Lexer := do
  let l ← l.addCandidate
  let (t, rest) ← read l.rest
  return ((l.allowKey false).push t).go rest

/-- Reads an anchor or an alias. -/
def readName (token : String → Token) (s : Source) : Except Fault (Token × Source) := do
  let (name, t) ← anchorName (s.drop 1)
  return (token name, t)

/-- Reads a quoted scalar. -/
def readQuoted (double : Bool) (s : Source) : Except Fault (Token × Source) := do
  let (text, t) ← quotedText double [] (s.drop 1)
  return (.scalar (String.ofList text) false, t)

/-- A block scalar. -/
def block (l : Lexer) (folded : Bool) : Except Fault Lexer := do
  let l ← (l.allowKey true).refuseCandidate
  let (text, rest) ← blockScalar folded l.indent (l.rest.drop 1)
  return (l.push (.scalar text false)).go rest

/-- A plain scalar; after a line break a key may start. -/
def plain (l : Lexer) : Except Fault Lexer := do
  let l ← l.addCandidate
  let (text, crossed, rest) := plainText (l.depth != 0) (l.indent + 1) [] false l.rest
  return ((l.allowKey crossed).push (.scalar (String.ofList text) true)).go rest

/-! ## Streams -/

/-- The next token, which starts here. -/
def next (l : Lexer) : Except Fault Lexer :=
  let c := l.rest.peek
  let atWord : Bool := endsWord (l.rest.peekAt 1)
  let inFlow : Bool := l.depth != 0
  let atStart : Bool := l.rest.column == 0
  if c == '%' && atStart then l.directive
  else if c == '-' && atStart && l.rest.atMarker then l.documentToken .documentStart (l.rest.drop 3)
  else if c == '.' && atStart && l.rest.atMarker then l.documentToken .documentEnd (l.rest.drop 3)
  else if c == '[' then l.openFlow .flowSequenceStart
  else if c == '\x7b' then l.openFlow .flowMappingStart
  else if c == ']' then l.closeFlow .flowSequenceEnd
  else if c == '\x7d' then l.closeFlow .flowMappingEnd
  else if c == ',' then l.comma
  else if c == '-' && atWord then l.hyphen
  else if c == '?' && (inFlow || atWord) then l.question
  else if c == ':' && (inFlow || atWord) then l.colon
  else if c == '*' then l.keyToken (readName .alias)
  else if c == '&' then l.keyToken (readName .anchor)
  else if c == '!' then l.keyToken readTag
  else if c == '|' && !inFlow then l.block false
  else if c == '>' && !inFlow then l.block true
  else if c == '\x27' then l.keyToken (readQuoted false)
  else if c == '"' then l.keyToken (readQuoted true)
  else if startsPlain inFlow l.rest then l.plain
  else .error .malformed

/-- Goes to the start of the next token. -/
def prepare (l : Lexer) : Except Fault Lexer := do
  let l ← l.skipBlanks.dropStale
  return l.endBlocks l.rest.column

/-- The number of tokens in front of the first candidate that has not expired. -/
def decided (l : Lexer) : Nat :=
  l.candidates.foldl (fun n e => if l.isStale e.2 then n else min n e.2.position) l.tokens.size

/-- The tokens of a source that turns out to be broken here. -/
def broken (l : Lexer) (f : Fault) : Array Token := (l.tokens.take l.decided).push (.broken f)

/-- Reads token after token. -/
def tokensFrom (l : Lexer) : Array Token :=
  match l.prepare with
  | .error f => l.broken f
  | .ok m =>
    if m.rest.peek == endMark then
      match m.documentToken .streamEnd m.rest with
      | .error f => l.broken f
      | .ok m => m.tokens
    else
      match m.next with
      | .error f => l.broken f
      | .ok m =>
        if _h : m.rest.length < l.rest.length then m.tokensFrom else l.broken .malformed
termination_by l.rest.length

end Lexer

/-- The tokens of a source. -/
def Token.ofSource (s : Source) : List Token :=
  (Lexer.skipMark { rest := s }).tokensFrom.toList

end ClientPlan.Yaml
