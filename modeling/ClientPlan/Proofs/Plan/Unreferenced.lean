import ClientPlan.Proofs.Document.Components
import ClientPlan.Proofs.Plan.Bounded
import ClientPlan.Proofs.Plan.Locality

/-!
# Components that nothing refers to

Documents that agree on the references that can be met in one of them come to the same plan, if they
have the same paths and say the same about themselves.  So a component schema that nothing refers to
does not matter, wherever it is added and whatever it holds (`planned_addComponent`).

Octets as a key are taken for the text that they encode when a schema is recorded, so a reference
can be met that is none in the document (`planned_ne_of_octets`).
-/

set_option autoImplicit false

namespace ClientPlan

/-! ## Descriptions -/

/-- Two descriptions differ only in their documents, which agree on some references. -/
def Api.AgreeOn (within : String → Bool) (api api' : Api) : Prop :=
  ∃ document, api' = { api with document } ∧ ClientPlan.AgreeOn within api.document document

/-- Descriptions are read alike from a document and from one with a component to which no reference
leads. -/
theorem alike_readApi {entries entries' : Entries} {key : String} {i : Nat} {node : Value}
    (h : List.Forall₂ (AlteredAt "components" (Value.changeAt "schemas"
      (Value.insertAt i (.str key, node)))) entries entries')
    (hd : (Value.map entries).RefersWithin (apartFrom key)) (version : String) :
    Alike (Api.AgreeOn (apartFrom key)) (readApi (.map entries) version)
      (readApi (.map entries') version) := by
  have hsame : ∀ k, k ≠ "components" → (Value.map entries').get? k = (Value.map entries).get? k :=
    fun k hk => (lookupText_of_alteredAt h k).resolve_right fun hkey => hk hkey.1
  have hpaths : readPaths (.map entries') = readPaths (.map entries) :=
    readPaths_eq (agreeOn_of_alteredAt h hd) hd (hsame "paths" (by decide))
  have hinfo : readInfo (.map entries') = readInfo (.map entries) := by
    rw [readInfo, readInfo, hsame "info" (by decide)]
  rw [readApi, readApi, hpaths, hinfo]
  refine Alike.bind_same fun paths => Alike.bind_same fun info => ?_
  refine (alike_mappingField h "raw").mapError.map ?_
  rintro document document' hdocument ⟨l, l', rfl, rfl, hl⟩
  have hl' := agreeOn_of_alteredAt hl (hd.mappingField (mapError_eq_ok.1 hdocument))
  exact ⟨_, rfl, hl'⟩

/-- A component schema that no reference leads to, through or around does not matter: whatever it
holds and wherever it is added, reading and planning fail in the same way or come to the same. -/
theorem planned_addComponent {document : Value} {key : String}
    (h : document.RefersWithin (apartFrom key)) (i : Nat) (node : Value) (version : String)
    (config : Config) :
    planned (document.addComponent i key node) version config =
      planned document version config := by
  cases document with
  | map entries =>
    have hread : Alike (Api.AgreeOn (apartFrom key)) (readApi (.map entries) version)
        (readApi ((Value.map entries).addComponent i key node) version) :=
      alike_readApi alteredAt_changeEntry h version
    rw [planned, planned]
    generalize hx : readApi (.map entries) version = x at hread ⊢
    generalize readApi ((Value.map entries).addComponent i key node) version = x' at hread ⊢
    cases hread with
    | error e => rfl
    | @ok api api' hagree =>
      obtain ⟨document', rfl, hagree⟩ := hagree
      have hresult := Setting.result_withDocument (s := ⟨api, config, .standard, .structural⟩)
        hagree rfl rfl fun p hp => hp.refersWithin h hx
      exact congrArg (Logged.ofExcept (.ok ()) >>= fun _ => ·) hresult
  | _ => rfl

/-- A component of ghosts, which refers to itself. -/
def ghost : Value :=
  .ofFields [("type", .str "object"), ("title", .str "Pet"),
    ("properties", .ofFields [("friend", refTo "ghost")])]

/-- Ghosts do not matter to pets. -/
theorem planned_addComponent_pets :
    petDocument.RefersWithin (apartFrom "ghost") ∧
    (Pointer.resolve (petDocument.addComponent 0 "ghost" ghost)
      "#/components/schemas/ghost").toOption.isSome = true ∧
    planned (petDocument.addComponent 0 "ghost" ghost) "3.0.3" default =
      planned petDocument "3.0.3" default ∧
    ∃ result, (planned petDocument "3.0.3" default).outcome = .ok result := by
  have hrefers : petDocument.RefersWithin (apartFrom "ghost") := by
    rw [Value.RefersWithin]
    decide +kernel
  refine ⟨hrefers, by decide +kernel, planned_addComponent hrefers 0 ghost "3.0.3" default, ?_⟩
  obtain ⟨api, p, hapi, hp, -⟩ := Setting.exists_run petDocument "3.0.3" structuralSetting 8
    (fun _ => true) (fun _ => rfl) (by decide +kernel)
  exact ⟨p.result, outcome_planned hapi hp⟩

/-- A document whose only response has the schema `schema`, without components. -/
def respondingWith (schema : Value) : Value :=
  .ofFields [
    ("paths", .ofFields [("/x", .ofFields [("get", .ofFields [("responses", .ofFields [("200",
      .ofFields [("content", .ofFields [("application/json", .ofFields [("schema",
        schema)])])])])])])]),
    ("components", .ofFields [("schemas", .ofFields [])])]

/-- A mapping that refers to ghosts once its key is taken for the text that it encodes. -/
def octetReference : Value :=
  .map [(.bytes [36, 114, 101, 102], .str "#/components/schemas/ghost")]

/-- No reference in a document leads to ghosts, but an octet key that reads `$ref` does: planning
fails without ghosts and succeeds with them. -/
theorem planned_ne_of_octets : ∃ (document : Value) (key : String) (node : Value),
    (∀ ref ∈ document.references, apartFrom key ref = true) ∧
    document.get? "components" = some (.ofFields [("schemas", .ofFields [])]) ∧
    (∃ e, (planned document "3.0.3" default).outcome = .error e) ∧
    ∃ result,
      (planned (document.addComponent 0 key node) "3.0.3" default).outcome = .ok result := by
  refine ⟨respondingWith octetReference, "ghost", ghost, by decide +kernel, by rfl, ?_, ?_⟩
  · have hfirst : ((readApi (respondingWith octetReference) "3.0.3").toOption.any fun api =>
        api.endpoints.head?.any fun e => ((structuralSetting api).includes e).toOption.any id &&
          e.schemaPositions.head?.any fun p => match (structuralSetting api).visit
            ⟨[], OrderedMap.empty, OrderedMap.empty⟩ p with
          | .error (.failure _) => true
          | _ => false) = true := by
      decide +kernel
    obtain ⟨api, hapi, hfirst⟩ := toOption_any_eq_true.1 hfirst
    obtain ⟨e, he, hfirst⟩ := (Option.any_eq_true _ _).1 hfirst
    obtain ⟨hincluded, hfirst⟩ := Bool.and_eq_true_iff.1 hfirst
    obtain ⟨included, hincluded, rfl⟩ := toOption_any_eq_true.1 hincluded
    obtain ⟨p, hp, hvisit⟩ := (Option.any_eq_true _ _).1 hfirst
    obtain ⟨todo, he⟩ := List.head?_eq_some_iff.1 he
    obtain ⟨rest, hp⟩ := List.head?_eq_some_iff.1 hp
    split at hvisit
    · next failure hv =>
      have hdiscover := Setting.discover_eq_error he hincluded hp hv
      exact ⟨failure, outcome_planned_eq_error hapi hdiscover⟩
    · cases hvisit
  · obtain ⟨api, p, hapi, hp, -⟩ := Setting.exists_run
      ((respondingWith octetReference).addComponent 0 "ghost" ghost) "3.0.3" structuralSetting 8
      (fun _ => true) (fun _ => rfl) (by decide +kernel)
    exact ⟨p.result, outcome_planned hapi hp⟩

end ClientPlan
