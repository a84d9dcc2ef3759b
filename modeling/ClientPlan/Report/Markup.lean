import ClientPlan.Report.EmojiName
import ClientPlan.Text.Blank
import ClientPlan.Text.Lower

/-!
# Marked texts

A message on a terminal with colours is a text with tags in brackets, which switch colours on and off.
`Markup.escape` keeps what is said from being taken for tags, by backslashes in front of brackets, and
`Markup.shown` is what is seen of a marked text: no tags, one backslash of two in front of a bracket,
and emoji in place of their names between colons.

Since escaped text is marked as well, a backslash at the very end can be seen twice, and one before
the tag that ends a colour is lost.
-/

set_option autoImplicit false

namespace ClientPlan.Markup

/-! ## Tags -/

/-- Whether a tag can begin with a character. -/
def startsTag (c : Char) : Bool := ('a' ≤ c && c ≤ 'z') || c == '#' || c == '/' || c == '@'

/-- What a text has up to the first closing bracket, with the bracket, if no opening bracket comes
before it; `before` is the reversed text before it. -/
def throughBracket? (before : List Char) : List Char → Option (List Char)
  | [] => none
  | c :: r =>
    if c == ']' then some (c :: before).reverse
    else if c == '[' then none
    else throughBracket? (c :: before) r

/-- The tag at the start of a text. -/
def tag? : List Char → Option (List Char)
  | '[' :: c :: r => if startsTag c then throughBracket? [c, '['] r else none
  | _ => none

/-- A part of a marked text. -/
inductive Piece where
  /-- Text without tags. -/
  | plain (text : List Char)
  /-- A tag after as many backslashes. -/
  | tag (backslashes : Nat) (text : List Char)
deriving DecidableEq, Repr

/-- Pieces with a plain text in front, unless it is empty. -/
def addPlain (text : List Char) (pieces : List Piece) : List Piece :=
  if text.isEmpty then pieces else .plain text :: pieces

/-- The pieces of a text with at most `fuel` characters; `before` is the reversed plain text before
it, without the backslashes right before it. -/
def piecesWithin (fuel : Nat) (before : List Char) (backslashes : Nat) (s : List Char) :
    List Piece :=
  match fuel, s with
  | 0, _ | _, [] => addPlain (List.replicate backslashes '\\' ++ before).reverse []
  | fuel + 1, c :: r =>
    if c == '\\' then piecesWithin fuel before (backslashes + 1) r
    else match tag? (c :: r) with
      | some t =>
        addPlain before.reverse
          (.tag backslashes t :: piecesWithin fuel [] 0 ((c :: r).drop t.length))
      | none => piecesWithin fuel (c :: List.replicate backslashes '\\' ++ before) 0 r

/-- The pieces of a marked text. -/
def pieces (s : List Char) : List Piece := piecesWithin s.length [] 0 s

/-! ## Escapes -/

/-- A piece of a text so that its tag is shown: one backslash more than twice as many. -/
def Piece.escaped : Piece → List Char
  | .plain text => text
  | .tag backslashes text => List.replicate (2 * backslashes + 1) '\\' ++ text

/-- A text so that it has no tags when it is marked; a single backslash at the end is doubled. -/
def escape (s : List Char) : List Char :=
  let escaped := (pieces s).flatMap Piece.escaped
  match escaped.reverse with
  | '\\' :: r => if r.head? == some '\\' then escaped else escaped ++ ['\\']
  | _ => escaped

/-! ## Emoji -/

/-- The emoji of an entry of the table, if the entry has the name; a skin tone comes after the first
character of an emoji, in place of a selector. -/
def entryEmoji? (name entry : String) : Option (List Char) :=
  match entry.splitOn " " with
  | key :: value :: marks =>
    if key == name then some value.toList
    else if marks.isEmpty || !name.startsWith key then none
    else match skinTones.lookup (name.drop key.length).toString, value.toList with
      | some tone, c :: r =>
        some (c :: tone :: if r.head? == some (Char.ofNat 0xFE0F) then r.drop 1 else r)
      | _, _ => none
  | _ => none

/-- The emoji of a name. -/
def emoji? (name : String) : Option (List Char) :=
  emojiNames.findSome? fun row => (row.splitOn "|").findSome? (entryEmoji? name)

/-- How an emoji is to be shown. -/
def variants : List (List Char × Char) := [
  ("-emoji:".toList, Char.ofNat 0xFE0F), ("-text:".toList, Char.ofNat 0xFE0E)]

/-- The name that a text after a colon begins with, the variant that follows it and the length of both
with the colon that ends them; `name` is the reversed name before the text. -/
def emojiName? (name : List Char) : List Char → Option (String × List Char × Nat)
  | [] => none
  | c :: r =>
    match variants.find? fun variant => variant.1.isPrefixOf (c :: r) with
    | some (mark, variant) =>
      some (String.ofList name.reverse, [variant], name.length + mark.length)
    | none =>
      if c == ':' then some (String.ofList name.reverse, [], name.length + 1)
      else if Text.isBlank c then none
      else emojiName? (c :: name) r

/-- A text of at most `fuel` characters with emoji in place of their names.  What stands between two
colons and is no name stays as it is, and its second colon begins no other name. -/
def withEmojiWithin (fuel : Nat) (s : List Char) : List Char :=
  match fuel, s with
  | 0, _ | _, [] => s
  | fuel + 1, c :: r =>
    match if c == ':' then emojiName? [] r else none with
    | none => c :: withEmojiWithin fuel r
    | some (name, variant, length) =>
      let shown := match emoji? (Text.lowercase name) with
        | some emoji => emoji ++ variant
        | none => c :: r.take length
      shown ++ withEmojiWithin fuel (r.drop length)

/-- A text with emoji in place of their names. -/
def withEmoji (s : List Char) : List Char := withEmojiWithin s.length s

/-! ## What is shown -/

/-- A text without the backslashes right before opening brackets. -/
def unescapeBrackets : List Char → List Char
  | '\\' :: '[' :: r => '[' :: unescapeBrackets r
  | c :: r => c :: unescapeBrackets r
  | [] => []

/-- What is shown of a piece. -/
def Piece.shown : Piece → List Char
  | .plain text => withEmoji (unescapeBrackets text)
  | .tag backslashes text =>
    List.replicate (backslashes / 2) '\\' ++
      if backslashes % 2 == 0 then [] else withEmoji text

/-- What is shown of a marked text. -/
def shown (s : List Char) : List Char :=
  if s.contains '[' then (pieces s).flatMap Piece.shown else withEmoji s

end ClientPlan.Markup
