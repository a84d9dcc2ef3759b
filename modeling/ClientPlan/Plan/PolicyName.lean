import ClientPlan.Plan.NameTable
import ClientPlan.Plan.Policy

/-!
# Policies by name

A configuration names its policy by a module and a member of it, separated by a colon.  What is found
under a name is up to an `Importer`.  `Policy.own` is the importer that knows the program itself and
nothing else: the members of a module are its own and the modules below it, and of all members only
one is a policy.
-/

set_option autoImplicit false

namespace ClientPlan

/-- What is found under a name of a module and a member. -/
inductive Import where
  /-- Nothing: there is no such module, or it has no such member. -/
  | missing
  /-- Something that is no policy. -/
  | other
  /-- A policy. -/
  | policy (policy : Policy)

/-- What is found under the names of modules and members.  A module can fail while it is imported. -/
abbrev Importer := String → String → Except Failure Import

namespace Policy

/-! ## The program itself -/

/-- The member that is a policy. -/
def memberName : String := "Processor"

/-- The end of the other name of a module with modules below it. -/
def innerSuffix : String := ".__init__"

/-- Whether there are modules below a module. -/
def isParent (module : String) : Bool :=
  namedModules.any fun entry => entry.1.startsWith (module ++ ".")

/-- The names of the modules right below a module. -/
def below (module : String) : List String :=
  let start := module ++ "."
  let names := namedModules.filterMap fun entry =>
    if entry.1.startsWith start then some (entry.1.drop start.length).toString else none
  names.filter fun name => !name.contains '.'

/-- The own members of a module, if there is one of this name. -/
def ownMembers? (module : String) : Option (List String) :=
  (namedModules.lookup module).map fun rows => rows.flatMap fun row => row.splitOn " "

/-- The members of a module, if there is one of this name. -/
def members? (module : String) : Option (List String) :=
  match ownMembers? module with
  | some own =>
    some (own ++ (if isParent module then ["__path__"] else []) ++ below module ++ commonMembers)
  | none =>
    let parent := (module.dropEnd innerSuffix.length).toString
    if module.endsWith innerSuffix && isParent parent then
      (ownMembers? parent).map (· ++ commonMembers)
    else none

/-- What is found where nothing but the program can be imported. -/
def own : Importer := fun module member =>
  if !(members? module).any (·.contains member) then .ok .missing
  else if member == memberName then .ok (.policy standard)
  else .ok .other

/-! ## Names -/

/-- A name as a module and a member. -/
def splitName (name : String) : String × String :=
  let module := name.toList.takeWhile (· != ':')
  (String.ofList module, String.ofList (name.toList.drop (module.length + 1)))

/-- The policy of a name. -/
def ofName (importer : Importer) (name : String) : Except Failure Policy :=
  let (module, member) := splitName name
  if module == "" || member == "" then .error (.config (.malformedPolicy name))
  else if module.startsWith "." then .error (.malformed .relativeName)
  else do
    match ← importer module member with
    | .missing => throw (.config (.unknownPolicy name))
    | .other => throw (.config (.notAPolicy name))
    | .policy policy => return policy

end Policy

end ClientPlan
