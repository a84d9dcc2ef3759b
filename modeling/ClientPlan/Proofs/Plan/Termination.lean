import ClientPlan.Plan.Fields
import ClientPlan.Proofs.Discovery.Progress
import ClientPlan.Proofs.Schema.Encoding
import ClientPlan.Proofs.Schema.Flattening

/-!
# Planning schemas ends

Discovery, flattening and encoding are three recursions that are guarded against cycles of
references in three ways: by what a discovery has visited, by the references and members on the way
to a node, and by the references that are being followed.  Each of them is carried out to its end,
whatever the document, and follows no reference again while it is being followed
(`schemas_settle`).
-/

set_option autoImplicit false

namespace ClientPlan

/-- A traversal settles if the function does at every entry. -/
theorem Settles.traverse {κ α β : Type} {m : OrderedMap κ α} {g : Nat → κ → α → Except Stop β}
    {k : κ → α → Except Failure β} (h : ∀ key v, Settles (fun n => g n key v) (k key v)) :
    Settles (fun n => m.traverse (g n)) (m.traverse k) := by
  have hentries : ∀ l : List (κ × α),
      Settles (fun n => OrderedMap.traverseEntries (g n) l) (OrderedMap.traverseEntries k l) := by
    intro l
    induction l with
    | nil => exact const (.ok _)
    | cons e l ih =>
      obtain ⟨key, v⟩ := e
      simp only [OrderedMap.traverseEntries]
      refine bind (h key v) fun w _ => ?_
      refine bind ih ?_
      rintro ⟨r, hr⟩ -
      exact const (.ok _)
  refine bind (hentries m.entries) ?_
  rintro ⟨r, hr⟩ -
  exact const (.ok _)

namespace Setting

variable {s : Setting} {schemas : SchemaMap} {names : SchemaNames}

/-- The field of a declared property, encoded with calls nested at most `n` deep. -/
def fieldWithin (s : Setting) (n : Nat) (names : SchemaNames) (d : Declaration) :
    Except Stop SchemaField := do
  let type ← (Encoder.recursion s.api.document names).run n [] ([], d.position)
  let name ← ((textField "name" d.name).required).mapError .failed
  return ⟨name, type, d.required⟩

/-- All schemas with their types and fields, flattened and encoded with calls nested at most `n`
deep. -/
def describeWithin (s : Setting) (n : Nat) (schemas : SchemaMap) (names : SchemaNames) :
    Except Stop SchemaMap :=
  schemas.traverse fun finalName schema => do
    let declarations ← (Declaration.recursion s.api.document).run n [] ([], schema.position)
    let fields ← declarations.mapM (s.fieldWithin n names)
    return { schema with type := some (.schema finalName), fields }

theorem encoding_settles (document : Value) (names : SchemaNames) (p : Position) :
    Settles (fun n => (Encoder.recursion document names).run n [] ([], p))
      (Encoder.structural document names p) :=
  Recursion.settles Encoder.computes_encodeFrom Encoder.guarded_recursion ([], p)
    (List.nil_subset _)

theorem flattening_settles (document : Value) (p : Position) :
    Settles (fun n => (Declaration.recursion document).run n [] ([], p))
      (Declaration.ofSchema document p) :=
  Recursion.settles Declaration.computes_collect Declaration.guarded_recursion ([], p)
    (List.nil_subset _)

theorem discovery_settles (s : Setting) (schemas : SchemaMap) (names : SchemaNames) :
    Settles (fun n => s.recursion.run n [] (s.api.endpoints, [], ⟨names.keys, schemas, names⟩))
      (s.discover schemas names) := by
  have hstart : s.discover schemas names =
      s.discoverRest (s.api.endpoints, [], ⟨names.keys, schemas, names⟩) := by
    rw [discoverRest]
    dsimp only
    rw [discoverFrom]
    rfl
  rw [hstart]
  exact Recursion.settles computes_discover guarded_recursion _ (List.nil_subset _)

theorem description_settles (s : Setting) (hs : s.encoder = Encoder.structural)
    (schemas : SchemaMap) (names : SchemaNames) :
    Settles (fun n => s.describeWithin n schemas names) (s.describe schemas names) := by
  refine Settles.traverse fun finalName schema => ?_
  rw [fieldsOf, bind_assoc]
  refine Settles.bind (flattening_settles _ _) fun declarations _ => ?_
  refine Settles.bind (Settles.mapM fun d _ => ?_) fun fields _ => Settles.const (.ok _)
  rw [fieldOf, typeOf, hs]
  refine Settles.bind (encoding_settles _ _ _) fun type _ => ?_
  exact Settles.bind (Settles.const _) fun name _ => Settles.const (.ok _)

end Setting

/-- However its references are cyclic, the schemas of a document are discovered and described and
any of its nodes is encoded within some depth of calls, with a result or a failure, and no reference
is followed while it is being followed. -/
theorem schemas_settle (s : Setting) :
    (∀ schemas names,
      Settles (fun n => s.recursion.run n [] (s.api.endpoints, [], ⟨names.keys, schemas, names⟩))
        (s.discover schemas names)) ∧
    (∀ schemas names, Settles (fun n => s.describeWithin n schemas names)
      ({ s with encoder := .structural }.describe schemas names)) ∧
    (∀ names p, Settles (fun n => (Encoder.recursion s.api.document names).run n [] ([], p))
      (Encoder.structural s.api.document names p)) :=
  ⟨s.discovery_settles,
    Setting.description_settles { s with encoder := .structural } rfl,
    Setting.encoding_settles s.api.document⟩

end ClientPlan
