import ClientPlan.Document.Reference

/-!
# The format of a description

A document says in its field `openapi` which version of the format it follows.  Version 3 is read;
the format before it, which had another name and field, is refused by name.
-/

set_option autoImplicit false

namespace ClientPlan

/-- The version of the format that a document follows, if it is one that is read. -/
def formatVersion (document : Value) : Except Failure String :=
  match document.get? "swagger", document.get? "openapi" with
  | some v, _ => do throw (.document (.swagger (← v.written)))
  | none, none | none, some .null => .error (.document .missingVersion)
  | none, some v => do
    let version ← v.written
    if version.startsWith "3." then return version
    else throw (.document (.unsupportedVersion version))

end ClientPlan
