import ClientPlan.Proofs.Discovery.Grouping

/-!
# Directives of schemas

Every identity of a schema brings directives.  They are joined identity by identity, and repetitions
are dropped at each of these steps, while other schemas are joined in between.

Main statement: the directives of a schema are those of its identities, one identity after another,
with all repetitions dropped at once (`directives_of_discoverSchemas`).
-/

set_option autoImplicit false

namespace ClientPlan

/-! ## Lists without repetitions -/

section

variable {α : Type} [DecidableEq α]

/-- Dropping repetitions first from the second part of a list changes nothing. -/
theorem eraseDups_append_eraseDups (l l' : List α) :
    (l ++ l'.eraseDups).eraseDups = (l ++ l').eraseDups := by
  induction l' using List.reverseRecOn with
  | nil => rfl
  | append_singleton l' a ih =>
    have hsplit : l ++ (l' ++ [a]).eraseDups =
        l ++ l'.eraseDups ++ if a ∈ l' then [] else [a] := by
      rw [OrderedMap.eraseDups_concat, List.append_assoc]
    rw [hsplit, ← List.append_assoc, OrderedMap.eraseDups_concat, ← ih]
    by_cases h : a ∈ l'
    · rw [if_pos h, if_pos (List.mem_append_right l h), List.append_nil, List.append_nil]
    · rw [if_neg h, OrderedMap.eraseDups_concat]
      simp only [List.mem_append, List.mem_eraseDups]

/-- Dropping repetitions first from the first part of a list changes nothing. -/
theorem eraseDups_eraseDups_append (l l' : List α) :
    (l.eraseDups ++ l').eraseDups = (l ++ l').eraseDups := by
  have hidem : l.eraseDups.eraseDups = l.eraseDups := eraseDups_append_eraseDups [] l
  rw [List.eraseDups_append, List.eraseDups_append, hidem]
  simp only [List.removeAll, List.elem_eq_mem, List.mem_eraseDups]

end

/-! ## Joining the directives of identities -/

namespace Setting

variable {s : Setting} {log : List Registration}

/-- What the policy gives for some registrations, one after another. -/
def given (s : Setting) (l : List Registration) : List String :=
  l.flatMap fun r => s.policy.schemaDirectives r.candidate

/-- One identity more joins what it brings to what has been joined before. -/
theorem directives_continued {schema : Schema} {before : List String}
    (h : schema.directives = before.eraseDups) (r : Registration) :
    (s.continued schema r).directives =
      (before ++ s.policy.schemaDirectives r.candidate).eraseDups := by
  show (schema.directives ++ s.needs r).eraseDups = _
  rw [h, needs, eraseDups_append_eraseDups, eraseDups_eraseDups_append]

theorem directives_foldl_continued {schema : Schema} {before : List String}
    (h : schema.directives = before.eraseDups) (l : List Registration) :
    (l.foldl s.continued schema).directives = (before ++ s.given l).eraseDups := by
  induction l generalizing schema before with
  | nil => rw [List.foldl_nil, h, given, List.flatMap_nil, List.append_nil]
  | cons r l ih =>
    rw [List.foldl_cons, ih (directives_continued h r), given, given, List.flatMap_cons,
      List.append_assoc]

/-- The directives of a schema are what the policy gives for the registrations under its name. -/
theorem directives_grouped {name : String} {schema : Schema}
    (h : (s.grouped log).get? name = some schema) :
    schema.directives = (s.given (log.filter fun r => r.finalName = name)).eraseDups := by
  rw [grouped, OrderedMap.get?_foldl_gather] at h
  cases hl : log.filter (fun r => r.finalName = name) with
  | nil =>
    rw [hl] at h
    cases h
  | cons r l =>
    rw [hl] at h
    cases h
    have hbegun : (s.begun r).directives = (s.policy.schemaDirectives r.candidate).eraseDups := rfl
    exact directives_foldl_continued hbegun l

end Setting

/-- After a discovery the directives of a schema are what the policy gives for its identities, one
after another in the order in which they were named, each one's first occurrence alone.  The policy
is asked about a schema that has the identity alone and the node there. -/
theorem directives_of_discoverSchemas {s : Setting} {p : PlanState}
    (h : s.start.discoverSchemas = .ok p) {name : String} {schema : Schema}
    (hschema : p.schemas.get? name = some schema) :
    ∃ registrations : List Registration,
      registrations.map Registration.identity = schema.identities ∧
      schema.identities = (p.schemaNames.entries.filter fun e => e.2 = name).map Prod.fst ∧
      (∀ r ∈ registrations, r.finalName = name ∧ ∃ m q declared, s.Meets m ∧
        s.StandsFor m q declared ∧ r.identity = q.pointer ∧
        mappingField "schema" q.node = .ok r.node) ∧
      schema.directives = (registrations.flatMap fun r => s.policy.schemaDirectives {
        finalName := name, identities := [r.identity], node := r.node }).eraseDups := by
  obtain ⟨f, hf, rfl⟩ := Setting.discoverSchemas_start_eq_ok.1 h
  obtain ⟨log, hlog⟩ := Setting.recorded_of_discover hf
  refine ⟨log.filter fun r => r.finalName = name, (hlog.identities_eq hschema).symm,
    hlog.namesGrouped.order name schema hschema, ?_, ?_⟩
  · intro r hr
    obtain ⟨hmem, hname⟩ := List.mem_filter.1 hr
    obtain ⟨m, q, declared, hm, hq, hdescribes, -⟩ := hlog.origin r hmem
    exact ⟨of_decide_eq_true hname, m, q, declared, hm, hq, hdescribes.identity, hdescribes.node⟩
  · have hgrouped := hschema
    rw [show _ = f.schemas from rfl, hlog.schemas] at hgrouped
    rw [Setting.directives_grouped hgrouped, Setting.given]
    refine congrArg List.eraseDups (List.flatMap_congr fun r hr => ?_)
    rw [Registration.candidate, of_decide_eq_true (List.mem_filter.1 hr).2]

/-- Directives that a component and its twin have in common, and one for each. -/
def petDirectives (schema : Schema) : List String :=
  if schema.identities = ["#/components/schemas/pet"] then ["Common", "Pet", "Common"]
  else ["Twin", "Common"]

/-- Pets and their twins are one schema, which needs what each of them needs. -/
theorem directives_pets : ∃ (s : Setting) (p : PlanState) (schema : Schema)
    (registrations : List Registration), s.start.discoverSchemas = .ok p ∧
    p.schemas.get? "Pet" = some schema ∧ schema.directives = ["Common", "Pet", "Twin"] ∧
    registrations.map Registration.identity =
      ["#/components/schemas/pet", "#/components/schemas/pet/properties/twin"] ∧
    schema.directives = (registrations.flatMap fun r => s.policy.schemaDirectives {
      finalName := "Pet", identities := [r.identity], node := r.node }).eraseDups := by
  let setting (api : Api) : Setting :=
    { defaultSetting api with policy := { Policy.standard with schemaDirectives := petDirectives } }
  obtain ⟨api, f, hapi, hf, htest⟩ := Setting.exists_discover petDocument "3.0.3" setting 8
    (fun _ f => (f.schemas.get? "Pet").any fun schema =>
      schema.directives == ["Common", "Pet", "Twin"] && schema.identities ==
        ["#/components/schemas/pet", "#/components/schemas/pet/properties/twin"])
    (fun _ => rfl) (by decide +kernel)
  obtain ⟨schema, hschema, hfound⟩ := (Option.any_eq_true _ _).1 htest
  obtain ⟨hdirectives, hidentities⟩ := Bool.and_eq_true_iff.1 hfound
  have hp := Setting.discoverSchemas_start_eq_ok.2 ⟨f, hf, rfl⟩
  obtain ⟨registrations, hr, -, -, hunion⟩ := directives_of_discoverSchemas hp hschema
  exact ⟨setting api, _, schema, registrations, hp, hschema, eq_of_beq hdirectives,
    hr.trans (eq_of_beq hidentities), hunion⟩

end ClientPlan
