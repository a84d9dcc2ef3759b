import ClientPlan.Text.Blank

/-!
# Configuration

The options of planning.  Interface files and operation files of one module must not get the same
name, so an interface suffix that is blank is ruled out as long as interface files are wanted: the
type `Config` carries the proof.
-/

set_option autoImplicit false

namespace ClientPlan

/-- The options of planning, without regard to whether they fit together. -/
structure Options where
  /-- Whether operations are homed in one module for each tag. -/
  useTags : Bool := true
  /-- The module of operations whose id yields no module path. -/
  defaultModule : String := "Operations"
  /-- Whether an interface file is planned for each operation module. -/
  interfaces : Bool := false
  /-- The segment appended to an operation module for its interface. -/
  interfaceSuffix : String := "Interface"
  /-- The output directory. -/
  baseLocation : String := "lib"
  /-- The directory of schema files, inside the output directory. -/
  schemaLocation : String := ""
  /-- The directory of operation files, inside the output directory. -/
  operationLocation : String := ""
  /-- A directive for every schema file. -/
  schemaUse : Option String := none
  /-- The client module for every operation file. -/
  defaultClient : Option String := none
  /-- What is put in front of every module name. -/
  baseModule : String := ""
  /-- What is to be left out: operation ids, requests, paths, schema names or patterns of them. -/
  ignore : List String := []
  /-- The name of a policy. -/
  policy : Option String := none
deriving DecidableEq, Repr

/-- Whether options fit together: with interface files there is a visible interface suffix. -/
def Options.consistent (o : Options) : Bool :=
  !(o.interfaces && Text.allBlank o.interfaceSuffix)

/-- Options that fit together. -/
structure Config extends Options where
  /-- With interface files there is a visible interface suffix. -/
  consistent : toOptions.consistent = true := by decide

/-- The defaults fit together. -/
instance : Inhabited Config := ⟨{}⟩

instance : DecidableEq Config := fun a b =>
  if h : a.toOptions = b.toOptions then isTrue (by cases a; cases b; cases h; rfl)
  else isFalse fun e => h (congrArg Config.toOptions e)

namespace Config

/-- The configuration with the given options, if they fit together. -/
def ofOptions? (o : Options) : Option Config :=
  if h : o.consistent = true then some ⟨o, h⟩ else none

/-- With interface files the interface suffix is not blank. -/
theorem allBlank_interfaceSuffix (c : Config) (h : c.interfaces = true) :
    Text.allBlank c.interfaceSuffix = false := by
  have := c.consistent
  simpa [Options.consistent, h] using this

end Config

end ClientPlan
