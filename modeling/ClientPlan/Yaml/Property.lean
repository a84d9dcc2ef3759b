import ClientPlan.Text.Utf8
import ClientPlan.Yaml.Token

/-!
# Properties of nodes and directives

Anchors, aliases and tags stand in front of nodes, directives on lines of their own in front of a
document.
-/

set_option autoImplicit false

namespace ClientPlan.Yaml

/-! ## Anchors -/

/-- Whether a name may end before `c`. -/
def endsName (c : Char) : Bool := endsWord c || ['?', ':', ',', ']', '\x7d', '%', '@', '\x60'].contains c

/-- The name of an anchor or an alias after its mark, and what follows it. -/
def anchorName (s : Source) : Except Fault (String × Source) :=
  let name := s.run isNameChar
  let t := s.skip isNameChar
  if name.isEmpty || !endsName t.peek then .error .malformed else .ok (String.ofList name, t)

/-! ## Tags -/

/-- A character that stands for itself in a tag. -/
def isTagChar (c : Char) : Bool :=
  isNameChar c || [';', '/', '?', ':', '@', '&', '=', '+', '$', ',', '.', '!', '~', '*', '\x27', '(',
    ')', '[', ']'].contains c

/-- The octets of a run of escapes by percent signs, and what follows it; `acc` holds the octets read
so far in reverse. -/
def tagOctets (acc : List Nat) : Source → Except Fault (List Nat × Source)
  | ⟨'%', _, _, _⟩ :: a :: b :: r =>
    match Text.baseDigit? 16 a.char, Text.baseDigit? 16 b.char with
    | some m, some n => tagOctets ((m * 16 + n) :: acc) r
    | _, _ => .error .malformed
  | s => if s.peek == '%' then .error .malformed else .ok (acc.reverse, s)

/-- The text of a tag at the start, and what follows it; `acc` holds what was read so far in
reverse. -/
def tagText (acc : List Char) (s : Source) : Except Fault (String × Source) :=
  let c := s.peek
  if c == '%' then
    match tagOctets [] s with
    | .error e => .error e
    | .ok (octets, t) =>
      match Text.decode? octets with
      | none => .error .malformed
      | some text =>
        if _h : t.length < s.length then tagText (text.toList.reverse ++ acc) t
        else .error .malformed
  else if isTagChar c then
    let t := s.drop 1
    if _h : t.length < s.length then tagText (c :: acc) t else .error .malformed
  else if acc.isEmpty then .error .malformed
  else .ok (String.ofList acc.reverse, s)
termination_by s.length

/-- The handle of a tag at the start: an exclamation mark, or a name between two of them. -/
def tagHandle (s : Source) : Except Fault (String × Source) :=
  if s.peek != '!' then .error .malformed
  else if s.peekAt 1 == ' ' then .ok ("!", s.drop 1)
  else
    let r : Source := s.drop 1
    let t := r.skip isNameChar
    if t.peek == '!' then .ok (String.ofList ('!' :: r.run isNameChar ++ ['!']), t.drop 1)
    else .error .malformed

/-- Whether a tag starts with a handle other than a single exclamation mark. -/
def hasHandle (s : Source) : Bool :=
  ((s.drop 1).find? fun c => c.char == '!' || endsField c.char).any fun c => c.char == '!'

/-- Reads a tag. -/
def readTag (s : Source) : Except Fault (Token × Source) := do
  let (tag, t) : Token × Source ←
    if s.peekAt 1 == '<' then do
      let (suffix, t) ← tagText [] (s.drop 2)
      if t.peek == '>' then pure (Token.tag none suffix, t.drop 1) else .error .malformed
    else if endsWord (s.peekAt 1) then pure (Token.tag none "!", s.drop 1)
    else do
      let (handle, t) ← if hasHandle s then tagHandle s else pure ("!", s.drop 1)
      let (suffix, t) ← tagText [] t
      pure (Token.tag (some handle) suffix, t)
  if endsField t.peek then return (tag, t) else .error .malformed

/-! ## Directives -/

/-- The decimal number at the start, and what follows it.  It must not have too many digits. -/
def directiveNumber (s : Source) : Except Fault (Nat × Source) :=
  let digits := s.run Char.isDigit
  if digits.isEmpty then .error .malformed
  else if Text.maxDigits < digits.length then .error (.scalar .badScalar)
  else .ok (digits.foldl (fun n c => n * 10 + (c.toNat - 48)) 0, s.skip Char.isDigit)

/-- Reads the version of a directive. -/
def readVersion (s : Source) : Except Fault (Directive × Source) := do
  let (major, t) ← directiveNumber (s.skip (· == ' '))
  if t.peek != '.' then .error .malformed
  else
    let (_, t) ← directiveNumber (t.drop 1)
    if endsField t.peek then return (.version major, t) else .error .malformed

/-- Reads the handle of a directive and what it stands for. -/
def readHandle (s : Source) : Except Fault (Directive × Source) := do
  let (handle, t) ← tagHandle (s.skip (· == ' '))
  if t.peek != ' ' then .error .malformed
  else
    let (expansion, t) ← tagText [] (t.skip (· == ' '))
    if endsField t.peek then return (.handle handle expansion, t) else .error .malformed

/-- Reads a directive after its percent sign. -/
def readDirective (s : Source) : Except Fault (Token × Source) := do
  let name := String.ofList (s.run isNameChar)
  let t := s.skip isNameChar
  if name == "" || !endsField t.peek then .error .malformed
  else
    let (d, t) ←
      if name == "YAML" then readVersion t
      else if name == "TAG" then readHandle t
      else pure (.other, t.skip fun c => !endsLine c)
    return (.directive d, ← t.afterLine)

end ClientPlan.Yaml
