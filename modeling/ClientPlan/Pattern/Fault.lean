/-!
# Faults of patterns

Why a text is not read as a pattern, or a pattern not matched.  A malformed text is simply none; the
other faults end what the pattern is needed for.
-/

set_option autoImplicit false

namespace ClientPlan.Pattern

/-- Why a text is not read as a pattern, or a pattern not matched. -/
inductive Fault where
  /-- It is no pattern. -/
  | malformed
  /-- A number of rounds is beyond the limit. -/
  | tooManyRounds
  /-- A number of rounds has more digits than are read. -/
  | unreadableCount
  /-- Classes are to hold ASCII characters only, and all characters. -/
  | modesDisagree
  /-- A match has a capture that ends before it starts. -/
  | reversedCapture
deriving DecidableEq, Repr

end ClientPlan.Pattern
