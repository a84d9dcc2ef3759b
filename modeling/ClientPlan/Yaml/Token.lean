import ClientPlan.Yaml.Source

/-!
# YAML tokens

The parts of which a stream is made: structure, properties of nodes, and scalars.  Blocks that are
marked by indentation alone have tokens for their start and end.
-/

set_option autoImplicit false

namespace ClientPlan.Yaml

/-- What a line that starts with a percent sign says. -/
inductive Directive where
  /-- The major version of the language. -/
  | version (major : Nat)
  /-- What a tag handle stands for. -/
  | handle (handle expansion : String)
  /-- A directive without a meaning. -/
  | other
deriving DecidableEq, Repr

/-- A part of a stream. -/
inductive Token where
  | directive (d : Directive)
  | documentStart
  | documentEnd
  | streamEnd
  | blockSequenceStart
  | blockMappingStart
  | blockEnd
  | flowSequenceStart
  | flowSequenceEnd
  | flowMappingStart
  | flowMappingEnd
  /-- A hyphen in front of an item of a block. -/
  | blockEntry
  /-- A comma. -/
  | flowEntry
  | key
  | value
  | alias (name : String)
  | anchor (name : String)
  /-- A tag: a handle, if there is one, and what follows it. -/
  | tag (handle : Option String) (suffix : String)
  /-- A scalar, which is plain if it is neither quoted nor a block. -/
  | scalar (text : String) (plain : Bool)
  /-- The place where the stream cannot be read further. -/
  | broken (f : Fault)
deriving DecidableEq, Repr

end ClientPlan.Yaml
