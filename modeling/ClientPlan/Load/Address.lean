import ClientPlan.Load.HostName
import ClientPlan.Text.Digit

/-!
# Addresses

What can be asked of a server has an address: a scheme, a host with an optional port, and what the
server makes of the rest.  `Address.isValid` says whether a text can be one at all.  A host is a name,
an address of four numbers, or an address of hexadecimal groups in brackets.
-/

set_option autoImplicit false

namespace ClientPlan.Address

/-- The greatest number of characters of an address. -/
def maxLength : Nat := 65536

/-- A character of ASCII that is not shown. -/
def isControl (c : Char) : Bool := c.toNat < 0x20 || c.toNat == 0x7F

/-! ## Parts -/

/-- What stands between the scheme and the path: who asks, the host and the port. -/
def authority (s : List Char) : List Char :=
  let afterScheme := (s.dropWhile (· != ':')).drop 3
  afterScheme.takeWhile fun c => !(['/', '?', '#'].contains c)

/-- The part of an authority after the last sign that ends the name of who asks. -/
def hostAndPort (s : List Char) : List Char := (s.reverse.takeWhile (· != '@')).reverse

/-- The host and the port; a host in brackets ends with the last bracket. -/
def splitPort (s : List Char) : List Char × List Char :=
  let host :=
    if s.head? == some '[' && s.contains ']' then (s.reverse.dropWhile (· != ']')).reverse
    else s.takeWhile (· != ':')
  let rest := s.drop host.length
  (host, if rest.head? == some ':' then rest.drop 1 else rest)

/-! ## Hosts -/

/-- Whether a text is a number of an address of four: at most 255, without a zero in front. -/
def isByte (s : List Char) : Bool :=
  match s with
  | [] => false
  | first :: rest =>
    s.all Char.isDigit && s.length ≤ 3 && (first != '0' || rest.isEmpty) &&
      (String.ofList s).toNat?.any (· ≤ 255)

/-- Whether a text is an address of four numbers. -/
def isFourNumbers (s : List Char) : Bool :=
  let parts := s.splitOn '.'
  parts.length == 4 && parts.all isByte

/-- Whether a text is a run of digits and then `gaps` more of them, each after one character of any
kind. -/
def hasNumberShape : Nat → List Char → Bool
  | 0, s => !s.isEmpty && s.all Char.isDigit
  | gaps + 1, s =>
    (List.range s.length).any fun n =>
      0 < n && (s.take n).all Char.isDigit && hasNumberShape gaps (s.drop (n + 1))

/-- Whether a text is a group of an address in brackets. -/
def isGroup (s : List Char) : Bool :=
  !s.isEmpty && s.length ≤ 4 && s.all fun c => (Text.baseDigit? 16 c).isSome

/-- The groups of an address in brackets, with the four numbers that may stand at the end as two. -/
def groups? (s : List Char) : Option (List (List Char)) :=
  let parts := s.splitOn ':'
  let last := parts.getLastD []
  if parts.length < 3 then none
  else if !last.contains '.' then some parts
  else if isFourNumbers last then some (parts.dropLast ++ [['0'], ['0']]) else none

/-- Whether groups are an address: eight of them, or fewer with one gap.  The gap is an empty group
that is neither the first nor the last; only beside it the first or the last may be empty. -/
def isGroupList (groups : List (List Char)) : Bool :=
  let inner := (List.range groups.length).filter fun n =>
    0 < n && n + 1 < groups.length && (groups[n]?).any List.isEmpty
  if 9 < groups.length then false
  else match inner with
    | [] => groups.length == 8 && groups.all isGroup
    | [gap] =>
      let before := groups.take gap
      let after := groups.drop (gap + 1)
      let high := if before.head? == some [] then before.drop 1 else before
      let low := if after.getLast? == some [] then after.dropLast else after
      (high.length == before.length || high.isEmpty) && (low.length == after.length || low.isEmpty) &&
        high.length + low.length < 8 && high.all isGroup && low.all isGroup
    | _ => false

/-- Whether a text is an address of groups; a zone may follow after a percent sign. -/
def isGrouped (s : List Char) : Bool :=
  let address := s.takeWhile (· != '%')
  let zone := s.drop address.length
  (zone.isEmpty || (1 < zone.length && !(zone.drop 1).contains '%')) &&
    (groups? address).any isGroupList

/-- Whether a text is a host. -/
def isHost (s : List Char) : Bool :=
  if s.isEmpty then true
  else if hasNumberShape 3 s then isFourNumbers s
  else if s.head? == some '[' && s.getLast? == some ']' then isGrouped (s.drop 1).dropLast
  else (s.all fun c => c.toNat < 0x80) || HostName.isValid (String.ofList s)

/-- Whether a text is a port: an integer or nothing. -/
def isPort (s : List Char) : Bool :=
  s.isEmpty || (Text.readInteger (String.ofList s)).isSome

/-! ## Addresses -/

/-- Whether a text with a scheme can be an address. -/
def isValid (url : String) : Bool :=
  let s := url.toList
  let (host, port) := splitPort (hostAndPort (authority s))
  s.length ≤ maxLength && !s.any isControl && isHost host && isPort port

end ClientPlan.Address
