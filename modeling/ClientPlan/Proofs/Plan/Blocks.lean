import ClientPlan.Plan.State
import ClientPlan.Proofs.Api.Requests
import ClientPlan.Proofs.Discovery.Bounded
import ClientPlan.Proofs.Naming.Homes

/-!
# Blocks of operations

The operations of a plan are one block after another: one for each included endpoint, in order of
the endpoints.  A block has one operation for each home of its endpoint, and they differ only in the
module and the name of the function (`operations_of_readApi`).
-/

set_option autoImplicit false

namespace ClientPlan

namespace Setting

variable {s : Setting} {names : SchemaNames} {e : Endpoint} {operations block : List Operation}
  {op : Operation} {endpoints : List Endpoint}

/-! ## The operations of all endpoints -/

/-- Whether an endpoint is included. -/
def accepts (s : Setting) (e : Endpoint) : Bool := (s.includes e).toOption.getD false

theorem accepts_iff : s.accepts e = true ↔ s.includes e = .ok true := by
  unfold accepts
  cases s.includes e with
  | error failure => simp [Except.toOption]
  | ok b => simp [Except.toOption]

/-- The operations of some endpoints are a block for each of the included ones. -/
theorem exists_blocks (h : (s.operationsOfAll names endpoints).outcome = .ok operations) :
    ∃ blocks, operations = blocks.flatten ∧
      List.Forall₂ (fun e block => (s.operationsOf names e).outcome = .ok block)
        (endpoints.filter s.accepts) blocks := by
  induction endpoints generalizing operations with
  | nil =>
    cases h
    exact ⟨[], rfl, .nil⟩
  | cons e r ih =>
    rw [operationsOfAll] at h
    obtain ⟨included, hincluded, h⟩ := Logged.outcome_bind_eq_ok.1 h
    have hincluded : s.includes e = .ok included := hincluded
    cases included with
    | true =>
      obtain ⟨first, hfirst, h⟩ := Logged.outcome_bind_eq_ok.1 h
      obtain ⟨rest, hrest, h⟩ := Logged.outcome_bind_eq_ok.1 h
      cases h
      obtain ⟨blocks, rfl, hblocks⟩ := ih hrest
      refine ⟨first :: blocks, rfl, ?_⟩
      rw [List.filter_cons_of_pos (accepts_iff.2 hincluded)]
      exact .cons hfirst hblocks
    | false =>
      obtain ⟨first, hfirst, h⟩ := Logged.outcome_bind_eq_ok.1 h
      obtain ⟨rest, hrest, h⟩ := Logged.outcome_bind_eq_ok.1 h
      cases hfirst
      cases h
      obtain ⟨blocks, rfl, hblocks⟩ := ih hrest
      refine ⟨blocks, rfl, ?_⟩
      rw [List.filter_cons_of_neg (by rw [accepts_iff, hincluded]; nofun)]
      exact hblocks

/-- Every operation is one of those of an included endpoint. -/
theorem exists_of_mem_operationsOfAll
    (h : (s.operationsOfAll names endpoints).outcome = .ok operations) (hop : op ∈ operations) :
    ∃ e ∈ endpoints, s.includes e = .ok true ∧
      ∃ own, (s.operationsOf names e).outcome = .ok own ∧ op ∈ own := by
  obtain ⟨blocks, rfl, hblocks⟩ := exists_blocks h
  obtain ⟨own, hown, hop⟩ := List.mem_flatten.1 hop
  obtain ⟨i, hi, rfl⟩ := List.mem_iff_getElem.1 hown
  have hlength := hblocks.length_eq
  have he := List.mem_filter.1 (List.getElem_mem (hlength ▸ hi))
  exact ⟨_, he.1, accepts_iff.1 he.2, _, hblocks.get (hlength ▸ hi) hi, hop⟩

/-! ## The operations of an endpoint -/

/-- The homes of an endpoint under the standard policy. -/
def homesOf (s : Setting) (e : Endpoint) : List Naming.Home :=
  Naming.homes (s.named e).effectiveId (s.named e).tags

/-- An operation at a home. -/
def placed (s : Setting) (op : Operation) (home : Naming.Home) : Operation :=
  { op with home := s.homeModule home.modules, function := home.function }

@[simp] theorem named_path : (s.named e).path = e.path := by
  unfold named
  split <;> rfl

@[simp] theorem named_method : (s.named e).method = e.method := by
  unfold named
  split <;> rfl

@[simp] theorem named_operationId : (s.named e).operationId = e.operationId := by
  unfold named
  split <;> rfl

theorem named_tags : (s.named e).tags = if s.config.useTags then e.tags else [] := by
  unfold named
  split <;> rfl

/-- An operation is about an endpoint. -/
structure About (op : Operation) (e : Endpoint) : Prop where
  /-- It has the path. -/
  path : op.path = e.path
  /-- It has the method. -/
  method : op.method = e.method
  /-- It has the id. -/
  operationId : op.operationId = e.operationId

/-- The operations of an endpoint are one operation at all its homes. -/
theorem exists_placed (hpolicy : s.policy = .standard)
    (h : (s.operationsOf names e).outcome = .ok block) :
    ∃ op : Operation, About op e ∧ block = (s.homesOf e).map (s.placed op) := by
  unfold operationsOf at h
  obtain ⟨requestBody, -, h⟩ := Logged.outcome_bind_eq_ok.1 h
  obtain ⟨responses, -, h⟩ := Logged.outcome_bind_eq_ok.1 h
  obtain ⟨⟨pathParams, queryParams⟩, -, h⟩ := Logged.outcome_bind_eq_ok.1 h
  obtain ⟨homes, hhomes, h⟩ := Logged.outcome_bind_eq_ok.1 h
  rw [hpolicy] at hhomes
  obtain rfl : s.homesOf e = homes :=
    Except.ok.inj ((Endpoint.outcome_standardHomes (s.named e)).symm.trans hhomes)
  cases h
  refine ⟨{
    home := s.homeModule []
    function := ""
    method := (s.named e).method
    path := (s.named e).path
    pathParams, queryParams, requestBody, responses
    docstring := s.policy.docstring (s.named e) queryParams
    summary := (s.named e).summary
    description := (s.named e).description
    externalDocs := (s.named e).externalDocs
    deprecated := (s.named e).deprecated
    operationId := (s.named e).operationId }, ⟨named_path, named_method, named_operationId⟩, ?_⟩
  refine List.map_congr_left fun home _ => ?_
  rw [hpolicy]
  rfl

/-- What the operations of one endpoint have in common, and how they differ. -/
structure IsBlock (s : Setting) (e : Endpoint) (block : List Operation) : Prop where
  /-- There is an operation. -/
  nonempty : block ≠ []
  /-- No two operations are at home in one module. -/
  distinct : (block.map Operation.home).Nodup
  /-- If tags are used and have type names, these are the modules. -/
  tagged : s.config.useTags = true → (∃ t ∈ e.tags, Naming.typeName t ≠ "") → ∀ m,
    m ∈ block.map Operation.home ↔
      ∃ t ∈ e.tags, Naming.typeName t ≠ "" ∧ m = ⟨[Naming.typeName t], false⟩
  /-- Otherwise there is one operation. -/
  single : (s.config.useTags = true → ∀ t ∈ e.tags, Naming.typeName t = "") → block.length = 1
  /-- The operations differ only in the module and the name of the function. -/
  alike : ∀ op ∈ block, ∀ op' ∈ block, { op' with home := op.home, function := op.function } = op
  /-- They are about the endpoint. -/
  about : ∀ op ∈ block, About op e

/-- The modules of an endpoint with tags that are used and have type names. -/
theorem map_homeModule_of_tagged (h : Naming.tagHomes (s.named e).tags ≠ []) :
    (s.homesOf e).map (fun home => s.homeModule home.modules) =
      (Naming.tagHomes (s.named e).tags).map fun name => ⟨[name], false⟩ := by
  rw [homesOf, Naming.homes_of_tagged h, List.map_map]
  rfl

/-- The homes of an endpoint are in different modules. -/
theorem nodup_homeModules (s : Setting) (e : Endpoint) :
    ((s.homesOf e).map fun home => s.homeModule home.modules).Nodup := by
  by_cases h : Naming.tagHomes (s.named e).tags = []
  · rw [homesOf, Naming.homes_of_untagged h]
    exact List.nodup_singleton _
  · rw [map_homeModule_of_tagged h]
    refine (Naming.nodup_tagHomes _).map fun name name' heq => ?_
    exact (List.cons.inj (congrArg ModuleName.segments heq)).1

/-- The operations of an endpoint make up a block. -/
theorem isBlock_of_operationsOf (hpolicy : s.policy = .standard)
    (h : (s.operationsOf names e).outcome = .ok block) : s.IsBlock e block := by
  obtain ⟨op, habout, rfl⟩ := exists_placed hpolicy h
  have hhomes : ((s.homesOf e).map (s.placed op)).map Operation.home =
      (s.homesOf e).map fun home => s.homeModule home.modules := by
    rw [List.map_map]
    rfl
  have hsingle (hnone : Naming.tagHomes (s.named e).tags = []) :
      s.homesOf e = [Naming.pathHome (s.named e).effectiveId] := Naming.homes_of_untagged hnone
  refine ⟨?_, ?_, ?_, ?_, ?_, ?_⟩
  · by_cases hnone : Naming.tagHomes (s.named e).tags = []
    · rw [hsingle hnone]
      exact List.cons_ne_nil _ _
    · rw [homesOf, Naming.homes_of_tagged hnone, List.map_map]
      exact fun hnil => hnone (List.map_eq_nil_iff.1 hnil)
  · rw [hhomes]
    exact nodup_homeModules s e
  · rintro huse ⟨t, ht, hname⟩ m
    have htags : (s.named e).tags = e.tags := by rw [named_tags, if_pos huse]
    have htagged : Naming.tagHomes (s.named e).tags ≠ [] := by
      rw [htags]
      exact List.ne_nil_of_mem (Naming.mem_tagHomes_iff.2 ⟨hname, t, ht, rfl⟩)
    rw [hhomes, map_homeModule_of_tagged htagged, htags, List.mem_map]
    constructor
    · rintro ⟨name, hmem, rfl⟩
      obtain ⟨hne, t', ht', rfl⟩ := Naming.mem_tagHomes_iff.1 hmem
      exact ⟨t', ht', hne, rfl⟩
    · rintro ⟨t', ht', hne, rfl⟩
      exact ⟨_, Naming.mem_tagHomes_iff.2 ⟨hne, t', ht', rfl⟩, rfl⟩
  · intro hnames
    have hnone : Naming.tagHomes (s.named e).tags = [] := by
      refine List.eq_nil_iff_forall_not_mem.2 fun name hmem => ?_
      obtain ⟨hne, t, ht, rfl⟩ := Naming.mem_tagHomes_iff.1 hmem
      rw [named_tags] at ht
      split at ht
      · next huse => exact hne (hnames huse t ht)
      · cases ht
    rw [hsingle hnone]
    rfl
  · intro op₁ hop₁ op₂ hop₂
    obtain ⟨home₁, -, rfl⟩ := List.mem_map.1 hop₁
    obtain ⟨home₂, -, rfl⟩ := List.mem_map.1 hop₂
    rfl
  · intro op' hop'
    obtain ⟨home, -, rfl⟩ := List.mem_map.1 hop'
    exact ⟨habout.path, habout.method, habout.operationId⟩

end Setting

/-! ## The operations of a description -/

/-- The endpoints of a description that is read are the requests of its document, one for one and in
order, and the operations that are built from nothing under the standard policy are one block after
another, one for each endpoint that is included. -/
theorem operations_of_readApi {p p' : PlanState} {document : Value} {version : String}
    (hread : readApi document version = .ok p.api) (hpolicy : p.policy = .standard)
    (hstart : p.operations = []) (h : p.buildOperations.outcome = .ok p') :
    List.Forall₂ Endpoint.ReadFrom (requests document) p.api.endpoints ∧
      ∃ blocks : List (List Operation), p'.operations = blocks.flatten ∧
        List.Forall₂ p.IsBlock (p.api.endpoints.filter p.accepts) blocks := by
  refine ⟨forall₂_endpoints hread, ?_⟩
  obtain ⟨operations, hoperations, h⟩ := Logged.outcome_bind_eq_ok.1 h
  cases h
  obtain ⟨blocks, rfl, hblocks⟩ := Setting.exists_blocks hoperations
  refine ⟨blocks, ?_, hblocks.imp fun e block => Setting.isBlock_of_operationsOf hpolicy⟩
  show p.operations ++ blocks.flatten = _
  rw [hstart, List.nil_append]

/-- What is built from nothing from a description that can be read. -/
theorem exists_buildOperations (document : Value) (version : String) (setting : Api → Setting)
    (test : PlanState → Bool)
    (h : ((readApi document version).toOption.any fun api =>
      (setting api).start.buildOperations.outcome.toOption.any test) = true) :
    ∃ api p, readApi document version = .ok api ∧
      (setting api).start.buildOperations.outcome = .ok p ∧ test p = true := by
  obtain ⟨api, hapi, h⟩ := toOption_any_eq_true.1 h
  obtain ⟨p, hp, htest⟩ := toOption_any_eq_true.1 h
  exact ⟨api, p, hapi, hp, htest⟩

/-- A document of pets, which can be listed under several tags and added under none. -/
def taggedDocument : Value :=
  .ofFields [("paths", .ofFields [("/pets", .ofFields [
    ("trace", .str "none"),
    ("post", .ofFields [("operationId", .str "add")]),
    ("get", .ofFields [("operationId", .str "list"), ("tags", .list [.str "Cats",
      .str "big dogs", .str "cats", .str "-"])])])])]

/-- Pets are listed in the modules of two tags and added in the default module. -/
theorem operations_tagged : ∃ p p' : PlanState, readApi taggedDocument "3.0.3" = .ok p.api ∧
    p.policy = .standard ∧ p.operations = [] ∧ p.buildOperations.outcome = .ok p' ∧
    p'.operations.map (fun op => (op.home.segments, op.function, op.method)) =
      [(["Cats"], "list", .get), (["BigDogs"], "list", .get), (["Operations"], "add", .post)] ∧
    List.Forall₂ Endpoint.ReadFrom (requests taggedDocument) p.api.endpoints ∧
    ∃ blocks : List (List Operation), p'.operations = blocks.flatten ∧
      List.Forall₂ p.IsBlock (p.api.endpoints.filter p.accepts) blocks := by
  obtain ⟨api, p', hapi, hp', htest⟩ := exists_buildOperations taggedDocument "3.0.3"
    defaultSetting (fun p' => p'.operations.map (fun op =>
      (op.home.segments, op.function, op.method)) == [(["Cats"], "list", .get),
        (["BigDogs"], "list", .get), (["Operations"], "add", .post)]) (by decide +kernel)
  exact ⟨(defaultSetting api).start, p', hapi, rfl, rfl, hp', eq_of_beq htest,
    operations_of_readApi (p := (defaultSetting api).start) hapi rfl rfl hp'⟩

/-- A document in which one path is written twice, once as a text and once as octets. -/
def twiceDocument : Value :=
  .ofFields [("paths", .map [
    (.str "/x", .ofFields [("get", .ofFields [("operationId", .str "first")])]),
    (.bytes [47, 120], .ofFields [("post", .ofFields [("operationId", .str "second")])])])]

/-- If two keys of the paths have one text, the operations are not a block for each method entry:
the entries of the first path item are lost. -/
theorem lost_of_octets : ∃ p p' : PlanState, readApi twiceDocument "3.0.3" = .ok p.api ∧
    p.policy = .standard ∧ p.config.ignore = [] ∧ p.operations = [] ∧
    p.buildOperations.outcome = .ok p' ∧
    ¬ ∃ blocks : List (List Operation), p'.operations = blocks.flatten ∧
      List.Forall₂ (fun r block => block ≠ [] ∧ ∀ op ∈ block, op.path = r.path ∧
        op.method = r.method) (methodEntries twiceDocument) blocks := by
  obtain ⟨api, p', hapi, hp', htest⟩ := exists_buildOperations twiceDocument "3.0.3"
    defaultSetting (fun p' => p'.operations.map (fun op => (op.path, op.method)) ==
      [("/x", .post)]) (by decide +kernel)
  have hoperations := eq_of_beq htest
  have hentries : (methodEntries twiceDocument).map (fun r => (r.path, r.method)) =
      [("/x", .get), ("/x", .post)] := by decide +kernel
  refine ⟨(defaultSetting api).start, p', hapi, rfl, rfl, rfl, hp', ?_⟩
  rintro ⟨blocks, hblocks, hforall⟩
  cases hlist : methodEntries twiceDocument with
  | nil =>
    rw [hlist] at hentries
    cases hentries
  | cons r rest =>
    rw [hlist] at hentries hforall
    cases hforall with
    | @cons _ block _ blocks hblock _ =>
      -- The block of the first entry has an operation, which would have to be one of all.
      obtain ⟨op, hop⟩ := List.exists_mem_of_ne_nil _ hblock.1
      have hmethod : op.method = .get := by
        rw [(hblock.2 op hop).2]
        exact congrArg Prod.snd (List.cons.inj hentries).1
      have hmem : (op.path, op.method) ∈ [("/x", Method.post)] := by
        rw [← hoperations, hblocks]
        exact List.mem_map.2 ⟨op, List.mem_append_left _ hop, rfl⟩
      rw [hmethod] at hmem
      simp at hmem

end ClientPlan
