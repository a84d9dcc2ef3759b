import ClientPlan.Load.Dialect
import ClientPlan.Text.Blank
import ClientPlan.Text.Charset

/-!
# Types of content

A server names the type of its content, and after semicolons parameters of the type.  The type says
what a document is written in, the parameter `charset` how its octets are to be read.
-/

set_option autoImplicit false

namespace ClientPlan

/-- Whether `part` occurs in a text. -/
def occursIn (part : List Char) : List Char → Bool
  | [] => part.isEmpty
  | c :: r => part.isPrefixOf (c :: r) || occursIn part r

/-- What is expected of content of a type. -/
def Dialect.ofContentType (s : String) : Dialect :=
  if occursIn "yaml".toList s.toList || occursIn "yml".toList s.toList then .yaml else .either

namespace ContentType

/-- The parts of a type between semicolons.  A semicolon that an odd number of quotes comes before in
its part does not count, unless it is the first character of the part; `part` is the reversed part
before the text, and `quoted` whether the number is odd. -/
def partsFrom (part : List Char) (quoted : Bool) : List Char → List (List Char)
  | [] => [part.reverse]
  | c :: r =>
    if c == ';' && !quoted then part.reverse :: partsFrom [] false r
    else partsFrom (c :: part) (if c == '"' && part.head? != some '\\' then !quoted else quoted) r

/-- A text with the escapes of quoted texts resolved; of two backslashes one is left. -/
def unescapeQuoted : List Char → List Char
  | '\\' :: '\\' :: r => '\\' :: unescapeQuoted r
  | c :: r => c :: unescapeQuoted r
  | [] => []

/-- A text with its quotes unescaped. -/
def unescapeQuotes : List Char → List Char
  | '\\' :: '"' :: r => '"' :: unescapeQuotes r
  | c :: r => c :: unescapeQuotes r
  | [] => []

/-- The value of a parameter without the quotes or brackets around it. -/
def unquote (s : List Char) : List Char :=
  if s.length < 2 then s
  else if s.head? == some '"' && s.getLast? == some '"' then
    unescapeQuotes (unescapeQuoted (s.drop 1).dropLast)
  else if s.head? == some '<' && s.getLast? == some '>' then (s.drop 1).dropLast
  else s

/-- A parameter as its name and its value; without a sign of equality the value is empty. -/
def parameter (part : List Char) : String × String :=
  let name := part.takeWhile (· != '=')
  let value := (part.drop name.length).drop 1
  (Text.trim (String.ofList name), String.ofList (unquote (Text.trim (String.ofList value)).toList))

/-- The value of the parameter `charset`. -/
def charset? (s : String) : Option String :=
  let given := ((partsFrom [] false s.toList).map parameter).find? fun p =>
    p.1.toLower == "charset"
  (given.map Prod.snd).filter fun value => value.toList.all fun c => c.toNat < 0x80

/-- How the octets of content are to be read: as UTF-8 unless the type says otherwise. -/
def charset (s : String) : Text.Charset :=
  ((charset? s).bind Text.Charset.ofName?).getD (.utf8 false)

end ContentType

end ClientPlan
