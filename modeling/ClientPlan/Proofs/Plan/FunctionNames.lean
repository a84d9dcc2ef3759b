import ClientPlan.Proofs.Naming.Words
import ClientPlan.Proofs.Plan.Blocks

/-!
# Function names within a module

The functions of one endpoint are in different modules.  So two operations have the same function in
the same module if and only if they come from two endpoints, and what is left of the ids of these in
that module has the same words (`functions_nodup_iff`).  Ids that differ can have the same words.
-/

set_option autoImplicit false

namespace ClientPlan

/-! ## Functions in words -/

/-- A function in a module, told by its words. -/
structure WordedFunction where
  /-- The module. -/
  home : ModuleName
  /-- The words of the name. -/
  words : List (List Char)
deriving DecidableEq, Repr

/-- The module and the name of a function. -/
def WordedFunction.called (f : WordedFunction) : ModuleName × String :=
  (f.home, String.ofList (Naming.joined f.words))

/-- The module and the name tell the words. -/
theorem WordedFunction.called_inj {f g : WordedFunction} (hf : Naming.AreWords f.words)
    (hg : Naming.AreWords g.words) (h : f.called = g.called) : f = g := by
  obtain ⟨hhome, hname⟩ := Prod.mk.inj h
  have hwords : f.words = g.words := Naming.joined_inj hf hg (String.ofList_injective hname)
  cases f
  cases g
  cases hhome
  cases hwords
  rfl

/-- The module and the name of the function of an operation. -/
def Operation.called (op : Operation) : ModuleName × String := (op.home, op.function)

namespace Setting

variable {s : Setting} {names : SchemaNames} {e : Endpoint} {block : List Operation}

/-- The functions of an endpoint under the standard policy, in words: one at each of its places. -/
def functionsOf (s : Setting) (e : Endpoint) : List WordedFunction :=
  (s.named e).places.map fun p => ⟨s.homeModule p.modules, p.words⟩

theorem areWords_of_mem_functionsOf {f : WordedFunction} (hf : f ∈ s.functionsOf e) :
    Naming.AreWords f.words := by
  obtain ⟨p, hp, rfl⟩ := List.mem_map.1 hf
  obtain ⟨id, hid⟩ := (s.named e).exists_places
  exact Naming.areWords_of_mem_places (hid ▸ hp)

/-- The functions of the operations of an endpoint. -/
theorem map_called_of_operationsOf (hpolicy : s.policy = .standard)
    (h : (s.operationsOf names e).outcome = .ok block) :
    block.map Operation.called = (s.functionsOf e).map WordedFunction.called := by
  obtain ⟨op, -, rfl⟩ := exists_placed hpolicy h
  rw [homesOf, Endpoint.homes_effectiveId, functionsOf, List.map_map, List.map_map, List.map_map]
  rfl

/-- The functions of all operations, endpoint by endpoint. -/
theorem map_called_of_operationsOfAll {endpoints : List Endpoint} {operations : List Operation}
    (hpolicy : s.policy = .standard)
    (h : (s.operationsOfAll names endpoints).outcome = .ok operations) :
    operations.map Operation.called =
      ((endpoints.filter s.accepts).flatMap s.functionsOf).map WordedFunction.called := by
  obtain ⟨blocks, rfl, hblocks⟩ := exists_blocks h
  clear h
  generalize endpoints.filter s.accepts = included at hblocks
  induction hblocks with
  | nil => rfl
  | cons hblock _ ih =>
    rw [List.flatten_cons, List.map_append, List.flatMap_cons, List.map_append,
      map_called_of_operationsOf hpolicy hblock, ih]

/-- The functions of one endpoint are in different modules. -/
theorem nodup_functionsOf (e : Endpoint) : (s.functionsOf e).Nodup := by
  have hmodules : (s.functionsOf e).map WordedFunction.home =
      (s.homesOf e).map fun home => s.homeModule home.modules := by
    rw [functionsOf, homesOf, Endpoint.homes_effectiveId, List.map_map, List.map_map]
    rfl
  exact List.Nodup.of_map _ (hmodules ▸ nodup_homeModules s e)

end Setting

/-! ## The functions of a plan -/

/-- No two of the operations that are built from nothing under the standard policy have the module
and the function in common if and only if no two included endpoints have functions with the same
words in one module. -/
theorem functions_nodup_iff {p p' : PlanState} (hpolicy : p.policy = .standard)
    (hstart : p.operations = []) (h : p.buildOperations.outcome = .ok p') :
    (p'.operations.map fun op => (op.home, op.function)).Nodup ↔
      (p.api.endpoints.filter p.accepts).Pairwise fun e e' =>
        (p.functionsOf e).Disjoint (p.functionsOf e') := by
  obtain ⟨operations, hoperations, h⟩ := Logged.outcome_bind_eq_ok.1 h
  cases h
  show ((p.operations ++ operations).map Operation.called).Nodup ↔ _
  rw [hstart, List.nil_append, Setting.map_called_of_operationsOfAll hpolicy hoperations]
  set functions := (p.api.endpoints.filter p.accepts).flatMap p.functionsOf with hfunctions
  have hcalled : (functions.map WordedFunction.called).Nodup ↔ functions.Nodup := by
    refine ⟨List.Nodup.of_map _, List.Nodup.map_on fun f hf g hg => ?_⟩
    obtain ⟨e, -, hf⟩ := List.mem_flatMap.1 hf
    obtain ⟨e', -, hg⟩ := List.mem_flatMap.1 hg
    exact WordedFunction.called_inj (Setting.areWords_of_mem_functionsOf hf)
      (Setting.areWords_of_mem_functionsOf hg)
  rw [hcalled, hfunctions, List.nodup_flatMap]
  exact and_iff_right fun e _ => Setting.nodup_functionsOf e

/-- Pets are listed and added by different functions, and what is left of their ids differs. -/
theorem functions_nodup_tagged : ∃ p p' : PlanState, readApi taggedDocument "3.0.3" = .ok p.api ∧
    p.policy = .standard ∧ p.operations = [] ∧ p.buildOperations.outcome = .ok p' ∧
    p'.operations.map (fun op => (op.home, op.function)) =
      [(⟨["Cats"], false⟩, "list"), (⟨["BigDogs"], false⟩, "list"),
        (⟨["Operations"], false⟩, "add")] ∧
    (p.api.endpoints.filter p.accepts).Pairwise fun e e' =>
      (p.functionsOf e).Disjoint (p.functionsOf e') := by
  obtain ⟨api, p', hapi, hp', htest⟩ := exists_buildOperations taggedDocument "3.0.3"
    defaultSetting (fun p' => p'.operations.map (fun op => (op.home, op.function)) ==
      [(⟨["Cats"], false⟩, "list"), (⟨["BigDogs"], false⟩, "list"),
        (⟨["Operations"], false⟩, "add")]) (by decide +kernel)
  refine ⟨(defaultSetting api).start, p', hapi, rfl, rfl, hp', eq_of_beq htest, ?_⟩
  refine (functions_nodup_iff (p := (defaultSetting api).start) rfl rfl hp').1 ?_
  rw [eq_of_beq htest]
  decide

/-- A document with two ids that differ in one separator. -/
def separatedDocument : Value :=
  .ofFields [("paths", .ofFields [
    ("/a", .ofFields [("get", .ofFields [("operationId", .str "list-pets")])]),
    ("/b", .ofFields [("get", .ofFields [("operationId", .str "list_pets")])])])]

/-- Ids that are given and all different do not make the functions different. -/
theorem functions_not_nodup_separated : ∃ p p' : PlanState,
    readApi separatedDocument "3.0.3" = .ok p.api ∧ p.policy = .standard ∧ p.operations = [] ∧
    p.api.endpoints.map Endpoint.operationId = [some "list-pets", some "list_pets"] ∧
    p.buildOperations.outcome = .ok p' ∧
    ¬ (p'.operations.map fun op => (op.home, op.function)).Nodup := by
  obtain ⟨api, p', hapi, hp', htest⟩ := exists_buildOperations separatedDocument "3.0.3"
    defaultSetting (fun p' => p'.operations.map (fun op => (op.home, op.function)) ==
      [(⟨["Operations"], false⟩, "list_pets"), (⟨["Operations"], false⟩, "list_pets")])
    (by decide +kernel)
  have hids : (readApi separatedDocument "3.0.3").toOption.any (fun api =>
      api.endpoints.map Endpoint.operationId == [some "list-pets", some "list_pets"]) = true := by
    decide +kernel
  rw [hapi] at hids
  refine ⟨(defaultSetting api).start, p', hapi, rfl, rfl, eq_of_beq hids, hp', ?_⟩
  rw [eq_of_beq htest]
  decide

end ClientPlan
