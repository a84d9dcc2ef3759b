import ClientPlan.Proofs.Command.Cells
import ClientPlan.Proofs.Config.Saving
import ClientPlan.Proofs.Plan.Bounded

/-!
# Plain listings

A command that lists a part of a plan and exits with code zero has made the plan, and its standard
output is the report alone (`exists_of_exitCode_list`).  In plain format a table with rows reads back
to its headers and rows exactly if the texts that are given have no tabs and no line ends
(`plainListing_of_run`).
-/

set_option autoImplicit false

namespace ClientPlan

/-! ## Failures -/

theorem Category.exitCode_ne_zero (c : Category) : c.exitCode ≠ 0 := by
  cases c <;> decide

theorem Failure.exitCode_ne_zero (e : Failure) : e.exitCode ≠ 0 := Category.exitCode_ne_zero _

/-! ## The standard output -/

theorem Streams.output_concat_eq_empty {l : List Streams} (h : ∀ a ∈ l, a.output = "") :
    (Streams.concat l).output = "" := by
  induction l with
  | nil => rfl
  | cons a r ih =>
    obtain ⟨ha, hr⟩ := List.forall_mem_cons.1 h
    rw [output_concat_cons, ha, ih hr]
    rfl

namespace Reporter

theorem output_noteLines (r : Reporter) (lines : List (List Char)) :
    (r.noteLines lines).output = "" := by
  unfold noteLines
  split <;> rfl

/-- Warnings are written beside the data. -/
theorem output_logWarnings (r : Reporter) (warnings : List String) :
    (Streams.concat (warnings.map r.logWarning)).output = "" :=
  Streams.output_concat_eq_empty (List.forall_mem_map.2 fun _ _ => r.output_noteLines _)

end Reporter

theorem Listing.report_eq_table {l : Listing} (h : l.rows ≠ []) (r : Reporter) (draw : Drawing) :
    l.report r draw = r.table draw l.headers l.rows (some l.title) := by
  have hrows : l.rows.isEmpty = false := by
    rw [← Bool.not_eq_true, List.isEmpty_iff]
    exact h
  unfold report
  split
  · rw [hrows]
    rfl
  · rfl

/-- What is not drawn is always reported. -/
theorem Listing.exists_report (l : Listing) {r : Reporter} (h : r.format ≠ .rich)
    (draw : Drawing) : ∃ report, l.report r draw = some report := by
  have htable : ∃ report, r.table draw l.headers l.rows (some l.title) = some report := by
    unfold Reporter.table
    split
    · exact ⟨_, rfl⟩
    · exact ⟨_, rfl⟩
    · next hrich => exact absurd hrich h
  unfold report
  split
  · split
    · exact ⟨_, rfl⟩
    · exact htable
  · exact htable

/-! ## Commands -/

namespace Scene

variable {s : Scene} {r : Reporter} {view : View} {request : Request}

/-- A listing that exits with code zero writes the report of a plan that is made. -/
theorem exists_of_exitCode_list (h : (s.list r view request).exitCode = 0) :
    ∃ p report, (request.plan s).outcome = .ok p ∧
      (p.listing view).report r s.draw = some report ∧
      (s.list r view request).streams.output = report.output := by
  unfold list at h ⊢
  dsimp only at h ⊢
  split at h
  · next p hp =>
    rw [hp]
    split at h
    · next report hreport =>
      refine ⟨p, report, rfl, hreport, ?_⟩
      rw [Streams.output_append, Reporter.output_logWarnings]
      exact String.empty_append
    · exact absurd h (Category.exitCode_ne_zero .general)
  · next e he =>
    split at h
    · exact absurd h e.exitCode_ne_zero
    · exact absurd h (Category.exitCode_ne_zero .general)

/-- A plan that is made is listed with exit code zero, unless it is to be drawn. -/
theorem exitCode_list {p : PlanState} (hp : (request.plan s).outcome = .ok p)
    (hformat : r.format ≠ .rich) : (s.list r view request).exitCode = 0 := by
  obtain ⟨report, hreport⟩ := (p.listing view).exists_report hformat s.draw
  unfold list
  dsimp only
  rw [hp]
  dsimp only
  rw [hreport]

/-- What a plain listing with rows writes to the standard output are the lines of the headers and the
rows. -/
theorem output_plain_list {p : PlanState} (hexit : (s.list r view request).exitCode = 0)
    (hp : (request.plan s).outcome = .ok p) (hrows : (p.listing view).rows ≠ [])
    (hplain : r.format = .plain) : (s.list r view request).streams.output = (Streams.concat
      (((p.listing view).headers :: (p.listing view).rows).map Reporter.rowLine)).output := by
  obtain ⟨p', report, hp', hreport, houtput⟩ := exists_of_exitCode_list hexit
  obtain rfl : p = p' := Except.ok.inj (hp.symm.trans hp')
  rw [Listing.report_eq_table hrows, Reporter.table, hplain] at hreport
  rw [houtput, ← Option.some.inj hreport]

end Scene

/-- Words that ask for a listing list. -/
theorem run_eq_list {words : List String} {s : Scene} {wishes : Wishes} {view : View}
    {request : Request} {r : Reporter}
    (hwords : Invocation.ofWords words = .ok (.job wishes (.list view request)))
    (hreporter : Reporter.ofWishes s.toSurroundings s.terminal wishes = .ok r) :
    run words s = s.list r view request := by
  have hne : words.isEmpty = false := by
    cases words with
    | nil => cases hwords
    | cons word rest => rfl
  rw [run, hne, if_neg Bool.false_ne_true, hwords]
  dsimp only
  rw [hreporter]

/-! ## Plans that are listed -/

/-- The program itself holds only one policy. -/
theorem Policy.eq_standard_of_ofName {name : String} {policy : Policy}
    (h : ofName own name = .ok policy) : policy = .standard := by
  unfold ofName own at h
  dsimp only at h
  split at h
  · cases h
  split at h
  · cases h
  split at h
  · cases h
  split at h
  · exact (Except.ok.inj h).symm
  · cases h

namespace Request

theorem policy_eq_standard {c : Config} {policy : Policy}
    (h : Request.policy Policy.own c = .ok policy) : policy = .standard := by
  unfold Request.policy at h
  split at h
  · exact (Except.ok.inj h).symm
  split at h
  · exact (Except.ok.inj h).symm
  · exact Policy.eq_standard_of_ofName h

/-- A plan that is listed is made in stages; where nothing but the program can be imported, under the
standard policy. -/
theorem exists_stages {request : Request} {s : Scene} {p : PlanState}
    (h : (request.plan s).outcome = .ok p) :
    ∃ (setting : Setting) (t : setting.Stages),
      (s.importer = Policy.own → setting.policy = .standard) ∧ p = t.plan := by
  obtain ⟨setting, hsetting, hrun⟩ := Logged.outcome_bind_eq_ok.1 h
  obtain ⟨config, -, hsetting⟩ := bind_eq_ok.1 hsetting
  obtain ⟨policy, hpolicy, hsetting⟩ := bind_eq_ok.1 hsetting
  obtain ⟨document, -, hsetting⟩ := bind_eq_ok.1 hsetting
  obtain ⟨version, -, hsetting⟩ := bind_eq_ok.1 hsetting
  obtain ⟨api, -, he⟩ := bind_eq_ok.1 hsetting
  cases he
  obtain ⟨t, ht⟩ := Setting.run_eq_ok_iff.1 hrun
  exact ⟨_, t, fun hown => policy_eq_standard (hown ▸ hpolicy), ht⟩

end Request

namespace PlanState

/-- Every row has a cell for each header. -/
theorem length_of_mem_rows (p : PlanState) (view : View) :
    ∀ row ∈ (p.listing view).rows, row.length = (p.listing view).headers.length := by
  cases view with
  | files => exact List.forall_mem_map.2 fun _ _ => rfl
  | operations => exact List.forall_mem_map.2 fun _ _ => rfl
  | schemas => exact List.forall_mem_map.2 fun _ _ => rfl

theorem isCell_headers (p : PlanState) (view : View) :
    (p.listing view).headers ≠ [] ∧ ∀ header ∈ (p.listing view).headers, IsCell header := by
  have hfiles : ∀ header ∈ ["Module", "File", "Operations", "Schemas", "Using", "Behaviour"],
      IsCell header := by decide
  have hoperations : ∀ header ∈ ["Module", "Function", "Method", "Path", "Path Params",
      "Query Params"], IsCell header := by decide
  have hschemas : ∀ header ∈ ["Schema", "Identities", "Fields"], IsCell header := by decide
  cases view with
  | files => exact ⟨List.cons_ne_nil _ _, hfiles⟩
  | operations => exact ⟨List.cons_ne_nil _ _, hoperations⟩
  | schemas => exact ⟨List.cons_ne_nil _ _, hschemas⟩

end PlanState

/-! ## Documents on the standard input -/

/-- A document that is written in JSON on the standard input is loaded. -/
theorem Surroundings.load_input {s : Surroundings} {document : Value}
    (hverbal : document.isVerbal = true) (hnesting : document.nesting ≤ s.stack.nesting)
    (hmap : document.isMap = true) (hinput : s.input = Json.write .unicode document)
    (hblank : Text.allBlank s.input = false) :
    s.load "-" = .ok document := by
  have hread : Json.read s.stack.nesting s.input = .ok document := by
    rw [hinput, ← String.append_empty (s := Json.write .unicode document)]
    exact Json.read_write_append hverbal hnesting rfl
  cases document with
  | map entries =>
    have hcontent : s.content (.ofText "-") = .ok (s.input, .either) := by
      rw [show Origin.ofText "-" = .input from by decide +kernel, content]
    have hvalue : Dialect.either.value s.stack s.input = .ok (.map entries) := by
      rw [Dialect.value, jsonValue?, hread]
      rfl
    rw [load, hcontent]
    show (if Text.allBlank s.input = true then _ else Dialect.either.document s.stack s.input) = _
    rw [hblank, if_neg Bool.false_ne_true, Dialect.document, hvalue]
    rfl
  | _ => cases hmap

/-- Where a document stands on the standard input, there are no files and nothing can be drawn. -/
def piped (document : Value) : Scene :=
  { Config.emptySurroundings with
    input := Json.write .unicode document
    draw := fun _ _ _ => none }

/-- The plan of a document on the standard input is made under the defaults. -/
theorem exists_plan_piped (document : Value) (version : String) (n : Nat)
    (test : PlanState → Bool) (hverbal : document.isVerbal = true)
    (hnesting : document.nesting ≤ (piped document).stack.nesting) (hmap : document.isMap = true)
    (hblank : Text.allBlank (Json.write .unicode document) = false)
    (hversion : formatVersion document = .ok version)
    (h : ((readApi document version).toOption.any fun api =>
      ((structuralSetting api).runWithin n).any test) = true) :
    ∃ p, (Request.plan { source := "-" } (piped document)).outcome = .ok p ∧
      test p = true := by
  obtain ⟨api, p, hapi, hrun, htest⟩ :=
    Setting.exists_run document version structuralSetting n test (fun _ => rfl) h
  have hempty : Config.resolve Config.emptySurroundings none [("base_module", .null)] =
      .ok default := by decide +kernel
  -- The configuration does not depend on the standard input.
  have hconfig : Config.resolve (piped document).toSurroundings none [("base_module", .null)] =
      .ok default := hempty
  have hload : (piped document).toSurroundings.load "-" = .ok document :=
    Surroundings.load_input hverbal hnesting hmap rfl hblank
  refine ⟨p, Logged.outcome_bind_eq_ok.2 ⟨structuralSetting api, ?_, hrun⟩, htest⟩
  refine bind_eq_ok.2 ⟨default, hconfig, bind_eq_ok.2 ⟨.standard, rfl, ?_⟩⟩
  refine bind_eq_ok.2 ⟨document, hload, bind_eq_ok.2 ⟨version, hversion, ?_⟩⟩
  exact bind_eq_ok.2 ⟨api, hapi, rfl⟩

/-- A document with one operation. -/
def pathDocument (path : String) : Value := .ofFields [
  ("openapi", .str "3.0.3"),
  ("paths", .ofFields [(path, .ofFields [("get", .ofFields [
    ("operationId", .str "getPet"), ("responses", .ofFields [])])])])]

/-- The words that ask for the operations of a document on the standard input in plain format. -/
def operationsWords : List String := ["--plain", "operations", "-"]

theorem ofWords_operationsWords : Invocation.ofWords operationsWords =
    .ok (.job { format := some .plain } (.list .operations { source := "-" })) := by
  decide +kernel

/-- The reporter of a plain listing. -/
def plainReporter : Reporter :=
  { format := .plain, colorless := false, quiet := false, verbose := false, width := defaultWidth }

theorem ofWishes_piped (document : Value) : Reporter.ofWishes (piped document).toSurroundings
    (piped document).terminal { format := some .plain } = .ok plainReporter := by
  have hempty : Reporter.ofWishes Config.emptySurroundings false { format := some .plain } =
      .ok plainReporter := by decide +kernel
  exact hempty

/-- The plan of a document is listed with exit code zero. -/
theorem exitCode_run_piped {document : Value} {p : PlanState}
    (h : (Request.plan { source := "-" } (piped document)).outcome = .ok p) :
    (run operationsWords (piped document)).exitCode = 0 := by
  rw [run_eq_list ofWords_operationsWords (ofWishes_piped document)]
  exact Scene.exitCode_list h (by decide)

/-! ## Reading listings back -/

/-- What the plain table of a part of a plan comes to. -/
structure PlainListing (p : PlanState) (view : View) (output : String) : Prop where
  /-- Every row has a cell for each header. -/
  widths : ∀ row ∈ (p.listing view).rows, row.length = (p.listing view).headers.length
  /-- The table reads back to the headers and the rows exactly if all texts that are given can stand
  as cells. -/
  reads_iff : tableRows output = (p.listing view).headers :: (p.listing view).rows ↔
    (∀ text ∈ p.configuredTexts view, IsCell text) ∧ ∀ text ∈ p.describedTexts view, IsCell text
  /-- Those that the configuration has a part in can if the texts of the configuration can. -/
  configured : (∀ text ∈ p.config.listedTexts, IsCell text) →
    ∀ text ∈ p.configuredTexts view, IsCell text

/-- A command that lists a part of a plan in plain format and succeeds writes a table that reads
back to what is listed, unless there are tabs or line ends in the texts that the listing shows: in
paths and the names of parameters, in identities, the names of properties and the types that they
declare, or in texts of the configuration.  This is so under the standard policy, which is the only
one of the program itself; a policy that is imported from elsewhere may give any names. -/
theorem plainListing_of_run {words : List String} {s : Scene} {wishes : Wishes} {view : View}
    {request : Request} {r : Reporter}
    (hwords : Invocation.ofWords words = .ok (.job wishes (.list view request)))
    (hreporter : Reporter.ofWishes s.toSurroundings s.terminal wishes = .ok r)
    (hplain : r.format = .plain) (hexit : (run words s).exitCode = 0) :
    ∃ p, (request.plan s).outcome = .ok p ∧
      (s.importer = Policy.own → p.policy = .standard) ∧
      (p.policy = .standard → (p.listing view).rows ≠ [] →
        PlainListing p view (run words s).streams.output) := by
  rw [run_eq_list hwords hreporter] at hexit ⊢
  obtain ⟨p, -, hp, -, -⟩ := Scene.exists_of_exitCode_list hexit
  obtain ⟨setting, t, hown, rfl⟩ := Request.exists_stages hp
  refine ⟨t.plan, hp, hown, fun hpolicy hrows => ?_⟩
  obtain ⟨hheaders, hcells⟩ := t.plan.isCell_headers view
  have hwidths := t.plan.length_of_mem_rows view
  have hne : ∀ row ∈ (t.plan.listing view).headers :: (t.plan.listing view).rows, row ≠ [] := by
    refine List.forall_mem_cons.2 ⟨hheaders, fun row hrow hnil => hheaders ?_⟩
    rw [← List.length_eq_zero_iff, ← hwidths row hrow, hnil]
    rfl
  refine ⟨hwidths, ?_, fun hconfig => t.isCell_of_configuredTexts hpolicy hconfig view⟩
  rw [Scene.output_plain_list hexit hp hrows hplain, Reporter.tableRows_rowLines_iff hne,
    List.forall_mem_cons, and_iff_right hcells]
  exact t.isCell_rows_iff hpolicy view

/-- The listing of a pet reads back. -/
theorem plainListing_of_run_pet :
    Invocation.ofWords operationsWords =
      .ok (.job { format := some .plain } (.list .operations { source := "-" })) ∧
    Reporter.ofWishes (piped (pathDocument "/pet")).toSurroundings
      (piped (pathDocument "/pet")).terminal { format := some .plain } = .ok plainReporter ∧
    plainReporter.format = .plain ∧
    (run operationsWords (piped (pathDocument "/pet"))).exitCode = 0 ∧
    ∃ p : PlanState,
      (Request.plan { source := "-" } (piped (pathDocument "/pet"))).outcome =
        .ok p ∧
      (p.listing .operations).rows = [["Operations", "get_pet", "GET", "/pet", "-", "-"]] ∧
      PlainListing p .operations
        (run operationsWords (piped (pathDocument "/pet"))).streams.output ∧
      tableRows (run operationsWords (piped (pathDocument "/pet"))).streams.output =
        (p.listing .operations).headers :: (p.listing .operations).rows := by
  obtain ⟨p, hp, htest⟩ := exists_plan_piped (pathDocument "/pet") "3.0.3" 4 (fun p =>
      (p.listing .operations).rows == [["Operations", "get_pet", "GET", "/pet", "-", "-"]] &&
      (p.configuredTexts .operations ++ p.describedTexts .operations).all fun text =>
        decide (IsCell text)) (by decide +kernel) (by decide +kernel) rfl (by decide +kernel)
    (by decide +kernel) (by decide +kernel)
  obtain ⟨hrows, hcells⟩ := Bool.and_eq_true_iff.1 htest
  have hrows := eq_of_beq hrows
  have hexit := exitCode_run_piped hp
  obtain ⟨p', hp', hown, hlisting⟩ := plainListing_of_run ofWords_operationsWords
    (ofWishes_piped (pathDocument "/pet")) rfl hexit
  obtain rfl : p = p' := Except.ok.inj (hp.symm.trans hp')
  have hlisting := hlisting (hown rfl) (by rw [hrows]; exact List.cons_ne_nil _ _)
  refine ⟨ofWords_operationsWords, ofWishes_piped _, rfl, hexit, p, hp, hrows, hlisting, ?_⟩
  rw [hlisting.reads_iff, ← List.forall_mem_append]
  exact fun text ht => of_decide_eq_true (List.all_eq_true.1 hcells text ht)

/-- With a tab in its path the row of a pet has a cell too many. -/
theorem not_readBack_of_tab : ∃ p : PlanState,
    (run operationsWords (piped (pathDocument "/a\tb"))).exitCode = 0 ∧
    (Request.plan { source := "-" } (piped (pathDocument "/a\tb"))).outcome =
      .ok p ∧
    (p.listing .operations).rows = [["Operations", "get_pet", "GET", "/a\tb", "-", "-"]] ∧
    tableRows (run operationsWords (piped (pathDocument "/a\tb"))).streams.output =
      [["Module", "Function", "Method", "Path", "Path Params", "Query Params"],
        ["Operations", "get_pet", "GET", "/a", "b", "-", "-"]] ∧
    tableRows (run operationsWords (piped (pathDocument "/a\tb"))).streams.output ≠
      (p.listing .operations).headers :: (p.listing .operations).rows := by
  obtain ⟨p, hp, htest⟩ := exists_plan_piped (pathDocument "/a\tb") "3.0.3" 4 (fun p =>
      (p.listing .operations).rows == [["Operations", "get_pet", "GET", "/a\tb", "-", "-"]])
    (by decide +kernel) (by decide +kernel) rfl (by decide +kernel) (by decide +kernel)
    (by decide +kernel)
  have hrows := eq_of_beq htest
  have hheaders : (p.listing .operations).headers =
      ["Module", "Function", "Method", "Path", "Path Params", "Query Params"] := rfl
  have hread : tableRows (run operationsWords (piped (pathDocument "/a\tb"))).streams.output =
      [["Module", "Function", "Method", "Path", "Path Params", "Query Params"],
        ["Operations", "get_pet", "GET", "/a", "b", "-", "-"]] := by
    have hne : (p.listing .operations).rows ≠ [] := by
      rw [hrows]
      exact List.cons_ne_nil _ _
    have hexit := exitCode_run_piped hp
    rw [run_eq_list ofWords_operationsWords (ofWishes_piped _)] at hexit ⊢
    rw [Scene.output_plain_list hexit hp hne rfl, hheaders, hrows]
    decide +kernel
  refine ⟨p, exitCode_run_piped hp, hp, hrows, hread, ?_⟩
  rw [hread, hheaders, hrows]
  decide

end ClientPlan
