import ClientPlan.Proofs.Schema.Encoding

/-!
# Types that allow the absent value

A schema without a name is encoded as one of its own types or of its parts, and at the end the type is
made to allow the absent value if the schema does.  A schema that has been collected is encoded by its
name before that, so it never allows the absent value, whatever the schema says.  Main statement: these
are exactly the schemas that allow the absent value while their types do not
(`nullable_iff_of_encodeFrom`).
-/

set_option autoImplicit false

namespace ClientPlan

namespace Encoder

variable {document : Value} {names : SchemaNames} {seen : List String} {p : Position}
  {t : TypeDescriptor}

/-- Only objects say anything about the absent value. -/
theorem isMap_of_allowsNull {node : Value} (h : allowsNull node = true) : node.isMap = true := by
  cases node with
  | map entries => rfl
  | _ => cases h

/-- Whatever a schema without a name is encoded as, at the end the absent value is allowed if the
schema allows it. -/
theorem exists_withNullable_of_atSchema {f : List String × Position → Except Failure TypeDescriptor}
    (h : (atSchema seen p).value f = .ok t) :
    ∃ bare : TypeDescriptor, t = bare.withNullable (allowsNull p.node) := by
  unfold atSchema at h
  split at h
  · rw [Body.value_bind] at h
    obtain ⟨members, -, h⟩ := bind_eq_ok.1 h
    exact ⟨.union members, (pure_eq_ok.1 h).symm⟩
  · rw [Body.value_bind] at h
    obtain ⟨bare, -, h⟩ := bind_eq_ok.1 h
    exact ⟨bare, (pure_eq_ok.1 h).symm⟩

/-- The type of a schema that is no reference and allows the absent value allows it too, or is that of
unstructured content, if and only if the schema has not been collected under a name.  Otherwise it is
that name and nothing else. -/
theorem nullable_iff_of_encodeFrom (hnull : allowsNull p.node = true)
    (href : p.node.get? referenceKey = none) (h : encodeFrom document names seen p = .ok t) :
    (t = .binary ∨ t.isNullable = true ↔ nameAt? names p.pointer = none) ∧
      ∀ name, nameAt? names p.pointer = some name → t = .schema name := by
  have hmap := isMap_of_allowsNull hnull
  cases hname : nameAt? names p.pointer with
  | some name =>
    rw [encodeFrom_of_name hmap href hname] at h
    cases h
    refine ⟨iff_of_false ?_ nofun, fun name' heq => congrArg _ (Option.some.inj heq)⟩
    rintro (heq | hnullable)
    · cases heq
    · cases hnullable
  | none =>
    rw [← value_atSchema hmap href hname] at h
    obtain ⟨bare, rfl⟩ := exists_withNullable_of_atSchema h
    rw [hnull]
    exact ⟨iff_of_true bare.withNullable_true rfl, nofun⟩

/-- The names after a schema with a title has been collected. -/
def petNames : SchemaNames := .ofList [("#/schemas/pet", "Pet")]

/-- A list of types with the absent value among them, next to a collected schema. -/
def ageSchema : Value :=
  .ofFields [("type", .list [.str "integer", .str "null", .str "string"])]

/-- Of several types the union allows the absent value. -/
theorem nullable_of_ageSchema : allowsNull ageSchema = true ∧ ageSchema.get? referenceKey = none ∧
    ∃ t, encodeFrom .null petNames [] ⟨ageSchema, "#/schemas/age"⟩ = .ok t ∧
      (t = .binary ∨ t.isNullable = true ↔ nameAt? petNames "#/schemas/age" = none) ∧
      ∀ name, nameAt? petNames "#/schemas/age" = some name → t = .schema name := by
  have hrun : (recursion .null petNames).run 2 [] ([], ⟨ageSchema, "#/schemas/age"⟩) =
      .ok (.orNull (.union [.primitive "integer" none, .primitive "string" none])) := by rfl
  have ht := Recursion.run_refines computes_encodeFrom _ _ _ _ hrun
  exact ⟨rfl, rfl, _, ht, nullable_iff_of_encodeFrom rfl rfl ht⟩

/-- A schema with a title that allows the absent value. -/
def petSchema : Value :=
  .ofFields [("type", .str "object"), ("title", .str "Pet"), ("nullable", .bool true)]

/-- The absent value is lost with the name. -/
theorem not_nullable_of_petSchema : allowsNull petSchema = true ∧
    petSchema.get? referenceKey = none ∧
    ∃ t, encodeFrom .null petNames [] ⟨petSchema, "#/schemas/pet"⟩ = .ok t ∧
      ¬ (t = .binary ∨ t.isNullable = true) := by
  have ht : encodeFrom .null petNames [] ⟨petSchema, "#/schemas/pet"⟩ = .ok (.schema "Pet") :=
    encodeFrom_of_name rfl rfl rfl
  refine ⟨rfl, rfl, _, ht, ?_⟩
  rintro (heq | hnullable)
  · cases heq
  · cases hnullable

end Encoder

end ClientPlan
