import ClientPlan.Naming.Token

/-!
# Module names

A module name is a sequence of segments, together with a mark whether the base module has already
been put in front.  It becomes text only where it is shown: segments joined by dots, or joined by
slashes in function case for a file.
-/

set_option autoImplicit false

namespace ClientPlan

/-- The identity of a planned module. -/
structure ModuleName where
  /-- The segments from the outermost module on. -/
  segments : List String
  /-- Whether the base module is already in front. -/
  qualified : Bool := false
deriving DecidableEq, Repr

/-- The non-empty parts of a text between dots. -/
def dotParts (s : String) : List String :=
  ((s.toList.splitOn '.').map String.ofList).filter (· != "")

namespace ModuleName

/-- The module that a dotted text names. -/
def ofDotted (s : String) : ModuleName := ⟨dotParts s, false⟩

/-- The module with the base module in front; a qualified module stays as it is. -/
def qualify (m : ModuleName) (base : String) : ModuleName :=
  if m.qualified then m else ⟨dotParts base ++ m.segments, true⟩

/-- The module inside `m` that is called `segment`. -/
def child (m : ModuleName) (segment : String) : ModuleName :=
  ⟨m.segments ++ [segment], m.qualified⟩

/-- The segments joined by dots. -/
def dotted (m : ModuleName) : String := ".".intercalate m.segments

/-- The segments in function case joined by slashes. -/
def stem (m : ModuleName) : String := "/".intercalate (m.segments.map Naming.functionName)

/-- Qualifying a second time changes nothing. -/
theorem qualify_qualify (m : ModuleName) (a b : String) :
    (m.qualify a).qualify b = m.qualify a := by
  unfold qualify
  split <;> simp_all

end ModuleName

end ClientPlan
