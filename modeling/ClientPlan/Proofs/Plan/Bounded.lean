import ClientPlan.Proofs.Plan.Termination
import ClientPlan.Proofs.Plan.Run

/-!
# Runs of bounded depth

Discovery, flattening and encoding recurse as long as there is progress.  `Setting.runWithin` bounds
the number of visits and the depth of calls instead, so it can be evaluated, and what it gives is
what a run with the structural encoder gives (`run_of_runWithin`).
-/

set_option autoImplicit false

namespace ClientPlan

/-! ## Bounded encoding -/

/-- The structural encoder with calls nested at most `n` deep. -/
def Encoder.bounded (n : Nat) : Encoder := fun document names p =>
  -- Which failure stands for a stop does not matter: only results are compared.
  ((Encoder.recursion document names).run n [] ([], p)).mapError fun _ => .malformed .badScalar

theorem Encoder.bounded_refines (n : Nat) (document : Value) (names : SchemaNames) (p : Position) :
    Refines (Encoder.bounded n document names p) (Encoder.structural document names p) :=
  Refines.of_mapError.trans (Recursion.run_refines Encoder.computes_encodeFrom n [] ([], p))

theorem Refines.traverse {ε ε' κ α β : Type} {m : OrderedMap κ α} {f : κ → α → Except ε β}
    {g : κ → α → Except ε' β} (h : ∀ k a, Refines (f k a) (g k a)) :
    Refines (m.traverse f) (m.traverse g) := by
  have hentries : ∀ l : List (κ × α),
      Refines (OrderedMap.traverseEntries f l) (OrderedMap.traverseEntries g l) := by
    intro l
    induction l with
    | nil =>
      intro r hr
      cases hr
      rfl
    | cons e l ih =>
      refine bind (h e.1 e.2) fun w => bind ih fun r b hb => ?_
      cases hb
      rfl
  refine bind (hentries m.entries) fun r b hb => ?_
  cases hb
  rfl

namespace Setting

variable {s : Setting} {names : SchemaNames} {n : Nat}

/-- The setting with another encoder. -/
def encodedBy (s : Setting) (encoder : Encoder) : Setting := { s with encoder }

theorem describeWithin_refines (hs : s.encoder = Encoder.structural) (n : Nat)
    (schemas : SchemaMap) (names : SchemaNames) :
    Refines (s.describeWithin n schemas names) (s.describe schemas names) := by
  refine Refines.traverse fun finalName schema => ?_
  rw [fieldsOf, bind_assoc]
  refine Refines.bind (Recursion.run_refines Declaration.computes_collect n [] _)
    fun declarations => Refines.bind (Refines.mapM fun d => ?_) fun fields r hr => ?_
  · rw [fieldOf, typeOf, hs]
    refine Refines.bind (Recursion.run_refines Encoder.computes_encodeFrom n [] _)
      fun type => Refines.bind Refines.of_mapError fun name r hr => ?_
    cases hr
    rfl
  · cases hr
    rfl

section operations

variable {encoder : Encoder} (he : ∀ p, Refines ((s.encodedBy encoder).typeOf names p)
  (s.typeOf names p))

include he

theorem paramOf_refines (location : Location) (p : Parameter) :
    Refines ((s.encodedBy encoder).paramOf names location p) (s.paramOf names location p) :=
  Refines.bind (he _) fun _ => Refines.refl _

theorem classify_refines (path : String) (parameters : List Parameter)
    (operationId : Option String) :
    Refines ((s.encodedBy encoder).classify names path parameters operationId)
      (s.classify names path parameters operationId) := by
  refine Refines.bind (Refines.mapM fun placeholder => ?_) fun inPath =>
    Refines.bind (Refines.mapM fun p => paramOf_refines he _ _) fun inQuery => Refines.refl _
  unfold pathParam
  split
  · exact Refines.refl _
  · exact paramOf_refines he _ _

theorem bodyTypes_refines (e : Endpoint) :
    Refines ((s.encodedBy encoder).bodyTypes names e) (s.bodyTypes names e) :=
  Refines.bind (Refines.mapM fun _ => Refines.bind (he _) fun _ => Refines.refl _)
    fun _ => Refines.refl _

theorem responseTypes_refines (e : Endpoint) :
    Refines ((s.encodedBy encoder).responseTypes names e) (s.responseTypes names e) := by
  refine Refines.traverse fun status r => ?_
  unfold responseType
  split
  · exact Refines.refl _
  split
  · exact Refines.refl _
  split
  · exact Refines.refl _
  · intro type h
    obtain ⟨t, ht, rfl⟩ := map_eq_ok.1 h
    exact map_eq_ok.2 ⟨t, he _ t ht, rfl⟩

theorem operationsOf_refines (e : Endpoint) :
    Refines ((s.encodedBy encoder).operationsOf names e).outcome
      (s.operationsOf names e).outcome := by
  intro operations h
  unfold operationsOf at h ⊢
  obtain ⟨requestBody, hbody, h⟩ := Logged.outcome_bind_eq_ok.1 h
  obtain ⟨responses, hresponses, h⟩ := Logged.outcome_bind_eq_ok.1 h
  obtain ⟨params, hparams, h⟩ := Logged.outcome_bind_eq_ok.1 h
  refine Logged.outcome_bind_eq_ok.2 ⟨_, bodyTypes_refines he e _ hbody, ?_⟩
  refine Logged.outcome_bind_eq_ok.2 ⟨_, responseTypes_refines he e _ hresponses, ?_⟩
  exact Logged.outcome_bind_eq_ok.2 ⟨_, classify_refines he _ _ _ _ hparams, h⟩

theorem operations_refines :
    Refines ((s.encodedBy encoder).operations names).outcome (s.operations names).outcome := by
  have hall : ∀ endpoints : List Endpoint,
      Refines ((s.encodedBy encoder).operationsOfAll names endpoints).outcome
        (s.operationsOfAll names endpoints).outcome := by
    intro endpoints
    induction endpoints with
    | nil => exact Refines.refl _
    | cons e r ih =>
      intro operations h
      unfold operationsOfAll at h ⊢
      obtain ⟨included, hincluded, h⟩ := Logged.outcome_bind_eq_ok.1 h
      refine Logged.outcome_bind_eq_ok.2 ⟨included, hincluded, ?_⟩
      dsimp only at h ⊢
      split at h
      · next hyes =>
        obtain ⟨first, hfirst, h⟩ := Logged.outcome_bind_eq_ok.1 h
        obtain ⟨rest, hrest, h⟩ := Logged.outcome_bind_eq_ok.1 h
        rw [if_pos hyes]
        refine Logged.outcome_bind_eq_ok.2 ⟨first, operationsOf_refines he e _ hfirst, ?_⟩
        exact Logged.outcome_bind_eq_ok.2 ⟨rest, ih _ hrest, h⟩
      · next hno =>
        obtain ⟨first, hfirst, h⟩ := Logged.outcome_bind_eq_ok.1 h
        obtain ⟨rest, hrest, h⟩ := Logged.outcome_bind_eq_ok.1 h
        rw [if_neg hno]
        refine Logged.outcome_bind_eq_ok.2 ⟨first, hfirst, ?_⟩
        exact Logged.outcome_bind_eq_ok.2 ⟨rest, ih _ hrest, h⟩
  exact hall s.api.endpoints

end operations

/-- The plan at the end of a run with at most `n` visits for each endpoint and calls nested at most
`n` deep, if that is all. -/
def runWithin (s : Setting) (n : Nat) : Option PlanState := do
  let found ← s.discoverAllWithin n s.api.endpoints ⟨[], OrderedMap.empty, OrderedMap.empty⟩
  let schemas ← (s.describeWithin n found.schemas found.names).toOption
  let operations ← ((s.encodedBy (.bounded n)).operations found.names).outcome.toOption
  let schemaFiles := s.config.schemaFiles schemas.values
  let operationFiles := s.config.operationFiles operations
  let interfaceFiles := s.config.interfaceFiles operations
  let files ← (reconcile schemaFiles operationFiles interfaceFiles).toOption
  return { s.start with
    schemas, schemaNames := found.names, operations, schemaFiles, operationFiles, interfaceFiles,
    files }

/-- What a bounded run gives is what a run with the structural encoder gives. -/
theorem run_of_runWithin (hs : s.encoder = Encoder.structural) {p : PlanState}
    (h : s.runWithin n = some p) : s.start.run.outcome = .ok p := by
  obtain ⟨found, hfound, h⟩ := Option.bind_eq_some_iff.1 h
  obtain ⟨schemas, hschemas, h⟩ := Option.bind_eq_some_iff.1 h
  obtain ⟨operations, hoperations, h⟩ := Option.bind_eq_some_iff.1 h
  obtain ⟨files, hfiles, h⟩ := Option.bind_eq_some_iff.1 h
  cases h
  have hencoder : ∀ q, Refines ((s.encodedBy (.bounded n)).typeOf found.names q)
      (s.typeOf found.names q) := by
    intro q
    rw [typeOf, typeOf, hs]
    exact Encoder.bounded_refines n s.api.document found.names q
  let t : s.Stages :=
    { found, schemas, operations, files
      discovered := discoverAll_of_discoverAllWithin hfound
      described := describeWithin_refines hs n _ _ _ (toOption_eq_some_iff.1 hschemas)
      built := operations_refines hencoder _ (toOption_eq_some_iff.1 hoperations)
      reconciled := toOption_eq_some_iff.1 hfiles }
  exact run_eq_ok_iff.2 ⟨t, rfl⟩

/-- The plan at the end of a bounded run over a description that can be read is that of a run. -/
theorem exists_run (document : Value) (version : String) (setting : Api → Setting) (n : Nat)
    (test : PlanState → Bool) (hs : ∀ api, (setting api).encoder = Encoder.structural)
    (h : ((readApi document version).toOption.any fun api =>
      ((setting api).runWithin n).any test) = true) :
    ∃ api p, readApi document version = .ok api ∧ (setting api).start.run.outcome = .ok p ∧
      test p = true := by
  obtain ⟨api, hapi, h⟩ := toOption_any_eq_true.1 h
  obtain ⟨p, hp, htest⟩ := (Option.any_eq_true _ _).1 h
  exact ⟨api, p, hapi, run_of_runWithin (hs api) hp, htest⟩

end Setting

end ClientPlan
