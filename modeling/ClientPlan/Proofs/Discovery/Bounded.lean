import ClientPlan.Api.Reader
import ClientPlan.Proofs.Discovery.Visit

/-!
# Discoveries of bounded length

A discovery ends because every visit makes progress.  `discoverWithin` counts the visits instead: it
is a recursion on their number, and what it finds is what is discovered
(`discoverFrom_of_discoverWithin`).
-/

set_option autoImplicit false

namespace ClientPlan

namespace Setting

variable {s : Setting} {f f' : Found} {work : List Position} {todo : List Endpoint}

/-- What is found from some positions in at most `n` visits, if that is all. -/
def discoverWithin (s : Setting) : Nat → List Position → Found → Option Found
  | _, [], f => some f
  | 0, _ :: _, _ => none
  | n + 1, p :: rest, f =>
    match s.visit f p with
    | .ok (more, f') => s.discoverWithin n (more ++ rest) f'
    | .error _ => none

/-- What is found from some endpoints in at most `n` visits for each of them, if that is all. -/
def discoverAllWithin (s : Setting) (n : Nat) : List Endpoint → Found → Option Found
  | [], f => some f
  | e :: r, f =>
    match s.includes e with
    | .ok true => (s.discoverWithin n e.schemaPositions f).bind fun f' => s.discoverAllWithin n r f'
    | .ok false => s.discoverAllWithin n r f
    | .error _ => none

theorem discoverFrom_of_discoverWithin {n : Nat} (h : s.discoverWithin n work f = some f') :
    s.discoverFrom work f = .ok f' := by
  induction n generalizing work f with
  | zero =>
    cases work with
    | nil =>
      cases h
      rw [discoverFrom]
    | cons p rest => cases h
  | succ n ih =>
    cases work with
    | nil =>
      cases h
      rw [discoverFrom]
    | cons p rest =>
      rw [discoverWithin] at h
      rw [discoverFrom]
      split at h
      · next more g hg =>
        rw [hg]
        exact ih h
      · cases h

theorem discoverAll_of_discoverAllWithin {n : Nat} (h : s.discoverAllWithin n todo f = some f') :
    s.discoverAll todo f = .ok f' := by
  induction todo generalizing f with
  | nil =>
    cases h
    rfl
  | cons e r ih =>
    rw [discoverAllWithin] at h
    rw [discoverAll, bind_eq_ok]
    split at h
    · next hincluded =>
      obtain ⟨g, hg, h⟩ := Option.bind_eq_some_iff.1 h
      refine ⟨true, hincluded, bind_eq_ok.2 ⟨g, discoverFrom_of_discoverWithin hg, ih h⟩⟩
    · next hincluded => exact ⟨false, hincluded, bind_eq_ok.2 ⟨f, rfl, ih h⟩⟩
    · cases h

/-- What is found within a number of visits in a description that can be read is what is discovered
in it. -/
theorem exists_discover (document : Value) (version : String) (setting : Api → Setting) (n : Nat)
    (test : Api → Found → Bool) (hsetting : ∀ api, (setting api).api = api)
    (h : ((readApi document version).toOption.any fun api =>
      ((setting api).discoverAllWithin n api.endpoints
        ⟨[], OrderedMap.empty, OrderedMap.empty⟩).any (test api)) = true) :
    ∃ api f, readApi document version = .ok api ∧
      (setting api).discover OrderedMap.empty OrderedMap.empty = .ok f ∧ test api f = true := by
  obtain ⟨api, hapi, h⟩ := toOption_any_eq_true.1 h
  obtain ⟨f, hf, htest⟩ := (Option.any_eq_true _ _).1 h
  refine ⟨api, f, hapi, ?_, htest⟩
  rw [discover, hsetting api]
  exact discoverAll_of_discoverAllWithin hf

/-- A discovery fails as its first visit does. -/
theorem discover_eq_error {e : Endpoint} {p : Position} {rest : List Position} {failure : Failure}
    (he : s.api.endpoints = e :: todo) (hincluded : s.includes e = .ok true)
    (hp : e.schemaPositions = p :: rest)
    (hv : s.visit ⟨[], OrderedMap.empty, OrderedMap.empty⟩ p = .error (.failure failure)) :
    s.discover OrderedMap.empty OrderedMap.empty = .error failure := by
  have hfrom : s.discoverFrom (p :: rest) ⟨[], OrderedMap.empty, OrderedMap.empty⟩ =
      .error failure := by
    rw [discoverFrom, hv]
  rw [discover, he, discoverAll, hincluded, hp]
  exact bind_eq_error.2 (.inr ⟨true, rfl, bind_eq_error.2 (.inl hfrom)⟩)

end Setting

/-! ## A description of pets -/

/-- A reference to a component. -/
def refTo (key : String) : Value := .ofFields [("$ref", .str ("#/components/schemas/" ++ key))]

/-- A document in which every request at `/pets` is answered by the component `key`. -/
def answering (key : String) (components : List (String × Value)) : Value :=
  .ofFields [
    ("paths", .ofFields [("/pets", .ofFields [("get", .ofFields [("responses", .ofFields [("200",
      .ofFields [("content", .ofFields [("application/json", .ofFields [("schema",
        refTo key)])])])])])])]),
    ("components", .ofFields [("schemas", .ofFields components)])]

/-- A document of pets, which have friends and a twin. -/
def petDocument : Value :=
  answering "pet" [("pet", .ofFields [
    ("type", .str "object"),
    ("properties", .ofFields [
      ("friend", refTo "pet"),
      ("twin", .ofFields [("type", .str "object"), ("title", .str "Pet")])])])]

/-- The plan of a description under the defaults, with all types left open. -/
def defaultSetting (api : Api) : Setting := ⟨api, default, .standard, fun _ _ _ => .ok .any⟩

/-- The plan of a description under the defaults. -/
def structuralSetting (api : Api) : Setting := ⟨api, default, .standard, .structural⟩

end ClientPlan
