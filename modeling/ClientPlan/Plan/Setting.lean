import ClientPlan.Plan.Policy

/-!
# The setting of a plan

What a plan is made from and what does not change while it is made: the description, the
configuration, the policy and the encoder.
-/

set_option autoImplicit false

namespace ClientPlan

/-- What a plan is made from. -/
structure Setting where
  /-- The description. -/
  api : Api
  /-- The configuration. -/
  config : Config
  /-- The policy. -/
  policy : Policy
  /-- The encoder. -/
  encoder : Encoder

/-- Whether an endpoint is planned. -/
def Setting.includes (s : Setting) (e : Endpoint) : Except Failure Bool :=
  s.policy.includesEndpoint s.config e

/-- The type of a position, given the names of the collected schemas. -/
def Setting.typeOf (s : Setting) (names : SchemaNames) (p : Position) :
    Except Failure TypeDescriptor :=
  s.encoder s.api.document names p

/-- The position of the schema of a content type. -/
def Media.position (m : Media) : Position := ⟨m.schema, m.pointer⟩

/-- The position of the schema of a parameter. -/
def Parameter.position (p : Parameter) : Position := ⟨p.schema, p.pointer⟩

end ClientPlan
