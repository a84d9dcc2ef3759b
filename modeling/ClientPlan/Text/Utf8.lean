/-!
# Texts as octets

`encode` is the UTF-8 form of a text, and `decode?` reads it back.  Only well-formed sequences are
texts: no overlong forms and no surrogates.
-/

set_option autoImplicit false

namespace ClientPlan.Text

/-- The octets of a byte array. -/
def octetsOf (a : ByteArray) : List Nat := a.data.toList.map UInt8.toNat

/-- The byte array of a list of octets. -/
def byteArrayOf (octets : List Nat) : ByteArray := ⟨(octets.map UInt8.ofNat).toArray⟩

/-- The octets of a text. -/
def encode (s : String) : List Nat := octetsOf s.toByteArray

/-- The text whose octets are given, if they are well formed. -/
def decode? (octets : List Nat) : Option String := String.fromUTF8? (byteArrayOf octets)

theorem byteArrayOf_octetsOf (a : ByteArray) : byteArrayOf (octetsOf a) = a := by
  cases a with
  | mk data => simp [byteArrayOf, octetsOf, List.map_map, Function.comp_def]

/-- The octets of a text read back. -/
theorem decode?_encode (s : String) : decode? (encode s) = some s := by
  rw [decode?, encode, byteArrayOf_octetsOf, String.fromUTF8?, dif_pos s.isValidUTF8]
  rfl

end ClientPlan.Text
