import ClientPlan.Plan.Operations
import ClientPlan.Proofs.Outcome

/-!
# What placeholders are bound to

A path and an operation declare parameters, any of them more than once.  A placeholder is bound to a
parameter in the path before any other, and to one of the operation before one of the path; only if no
parameter of its name is in the path it is bound to the first of that name that is declared at all
(`parameterFor?_mergeParameters`).  Main statement: which placeholder makes binding fail, and what
parameters a function has otherwise (`bindsParameters`).
-/

set_option autoImplicit false

namespace ClientPlan

variable {shared own : List Parameter} {name : String} {p : Parameter}

/-! ## Declared parameters -/

/-- Name and location, by which declarations are told apart. -/
def Parameter.key (p : Parameter) : String × Location := (p.name, p.location)

/-- The parameters of a path that its operation does not declare again, and those of the operation. -/
def declaredParameters (shared own : List Parameter) : List Parameter :=
  shared.filter (fun p => p.key ∉ own.map Parameter.key) ++ own

theorem Parameter.any_replaces_iff :
    own.any (·.replaces p) = true ↔ p.key ∈ own.map Parameter.key := by
  rw [List.any_eq_true, List.mem_map]
  refine exists_congr fun q => and_congr_right fun _ => ?_
  rw [replaces, Bool.and_eq_true, beq_iff_eq, beq_iff_eq, key, key, Prod.mk.injEq]

theorem mergeParameters_eq (shared own : List Parameter) :
    mergeParameters shared own = declaredParameters shared own := by
  rw [mergeParameters, declaredParameters]
  refine congrArg (· ++ own) (List.filter_congr fun p _ => ?_)
  rw [Bool.eq_iff_iff, Bool.not_eq_true', decide_eq_true_iff, ← Bool.not_eq_true,
    Parameter.any_replaces_iff]

theorem mem_of_mem_declaredParameters (h : p ∈ declaredParameters shared own) : p ∈ shared ++ own := by
  rcases List.mem_append.1 h with h | h
  · exact List.mem_append_left own (List.mem_of_mem_filter h)
  · exact List.mem_append_right shared h

/-- Of every name that is declared some parameter is left. -/
theorem exists_declared_of_mem (h : p ∈ shared ++ own) :
    ∃ q ∈ declaredParameters shared own, q.name = p.name := by
  rcases List.mem_append.1 h with h | h
  · by_cases hagain : p.key ∈ own.map Parameter.key
    · obtain ⟨q, hq, hkey⟩ := List.mem_map.1 hagain
      exact ⟨q, List.mem_append_right _ hq, congrArg Prod.fst hkey⟩
    · exact ⟨p, List.mem_append_left _ (List.mem_filter.2 ⟨h, decide_eq_true hagain⟩), rfl⟩
  · exact ⟨p, List.mem_append_right _ h, rfl⟩

/-! ## The parameter of a placeholder -/

/-- The parameter that a placeholder is bound to: the first in the path that the operation declares,
or else the first in the path that the path declares, or else the first of all that are declared. -/
def boundParameter? (shared own : List Parameter) (name : String) : Option Parameter :=
  (own.find? fun p => p.key == (name, .path)).or
    ((shared.find? fun p => p.key == (name, .path)).or
      ((declaredParameters shared own).find? fun p => p.name == name))

/-- Whether no parameter has a name. -/
def isUnbound (shared own : List Parameter) (name : String) : Bool :=
  (shared ++ own).all fun p => p.name != name

/-- Of all declarations of one name and location those of the operation come first. -/
theorem find?_declaredParameters (key : String × Location) :
    (declaredParameters shared own).find? (fun p => p.key == key) =
      (own.find? fun p => p.key == key).or (shared.find? fun p => p.key == key) := by
  rw [declaredParameters, List.find?_append, List.find?_filter]
  cases hown : own.find? fun p => p.key == key with
  | some q =>
    -- Whatever the path declares with that key is declared again.
    have hq : q.key ∈ own.map Parameter.key := List.mem_map_of_mem (List.mem_of_find?_eq_some hown)
    have hkey : q.key = key :=
      eq_of_beq (List.find?_some (p := fun p : Parameter => p.key == key) hown)
    refine congrArg (Option.or · _) (List.find?_eq_none.2 fun p _ => ?_)
    rw [decide_eq_true_iff, decide_eq_true_iff, beq_iff_eq]
    rintro ⟨hnot, rfl⟩
    exact hnot (hkey ▸ hq)
  | none =>
    rw [Option.or_none, Option.none_or]
    refine congrArg (List.find? · shared) (funext fun p => ?_)
    rw [Bool.eq_iff_iff, decide_eq_true_iff, and_iff_right_iff_imp, decide_eq_true_iff, beq_iff_eq]
    rintro rfl hagain
    obtain ⟨q, hq, hkey⟩ := List.mem_map.1 hagain
    exact List.find?_eq_none.1 hown q hq (beq_iff_eq.2 hkey)

/-- What a placeholder finds among the merged parameters. -/
theorem parameterFor?_mergeParameters :
    parameterFor? (mergeParameters shared own) name = boundParameter? shared own name := by
  rw [mergeParameters_eq, parameterFor?, boundParameter?, ← Option.or_assoc,
    ← find?_declaredParameters, List.head?_filter, List.find?_filter]
  refine congrArg (Option.or · _) (congrArg (List.find? · _) (funext fun p => ?_))
  rw [Bool.eq_iff_iff, decide_eq_true_iff, beq_iff_eq, beq_iff_eq, beq_iff_eq, Parameter.key,
    Prod.mk.injEq]

theorem mem_of_boundParameter? (h : boundParameter? shared own name = some p) :
    p ∈ shared ++ own ∧ p.name = name := by
  have hkeyed {l : List Parameter} (hfind : (l.find? fun p => p.key == (name, .path)) = some p) :
      p ∈ l ∧ p.name = name := by
    have hkey : p.key = (name, Location.path) :=
      eq_of_beq (List.find?_some (p := fun p : Parameter => p.key == (name, .path)) hfind)
    exact ⟨List.mem_of_find?_eq_some hfind, congrArg Prod.fst hkey⟩
  rcases Option.or_eq_some_iff.1 h with h | ⟨-, h⟩
  · exact (hkeyed h).imp_left (List.mem_append_right shared)
  rcases Option.or_eq_some_iff.1 h with h | ⟨-, h⟩
  · exact (hkeyed h).imp_left (List.mem_append_left own)
  · exact ⟨mem_of_mem_declaredParameters (List.mem_of_find?_eq_some h),
      eq_of_beq (List.find?_some (p := fun p : Parameter => p.name == name) h)⟩

/-- A placeholder is bound to something unless no parameter has its name. -/
theorem boundParameter?_eq_none_iff :
    boundParameter? shared own name = none ↔ isUnbound shared own name = true := by
  rw [isUnbound, List.all_eq_true]
  constructor
  · intro h p hp
    obtain ⟨q, hq, hname⟩ := exists_declared_of_mem hp
    have hnone := (Option.or_eq_none_iff.1 (Option.or_eq_none_iff.1 h).2).2
    rw [bne_iff_ne, ← hname]
    exact fun heq => List.find?_eq_none.1 hnone q hq (beq_iff_eq.2 heq)
  · intro h
    cases hbound : boundParameter? shared own name with
    | none => rfl
    | some p =>
      obtain ⟨hp, hname⟩ := mem_of_boundParameter? hbound
      exact absurd hname (bne_iff_ne.1 (h p hp))

/-! ## Binding -/

/-- A declared parameter as that of a function, under a name and at a location. -/
def Parameter.sentAs (p : Parameter) (name : String) (location : Location) (type : TypeDescriptor) :
    Param :=
  ⟨name, location, p.description, p.schema, type⟩

/-- A parameter of a function is what a placeholder is bound to. -/
def Binds (shared own : List Parameter) (type : Parameter → TypeDescriptor) (placeholder : String)
    (param : Param) : Prop :=
  ∃ p, boundParameter? shared own placeholder = some p ∧
    param = p.sentAs placeholder .path (type p)

/-- The parameters of a function in the query: those that are declared there. -/
def queryParameters (shared own : List Parameter) (type : Parameter → TypeDescriptor) : List Param :=
  ((declaredParameters shared own).filter fun p => p.location == .query).map fun p =>
    p.sentAs p.name .query (type p)

namespace Setting

variable {s : Setting} {names : SchemaNames} {path placeholder : String}
  {operationId : Option String} {type : Parameter → TypeDescriptor}

theorem paramOf_eq {location : Location} (h : s.typeOf names p.position = .ok (type p)) :
    s.paramOf names location p = .ok (p.sentAs p.name location (type p)) := by
  rw [paramOf, h]
  rfl

/-- How a path and an operation with these parameters are bound, given the types of their schemas. -/
structure BindsParameters (s : Setting) (names : SchemaNames) (path : String)
    (shared own : List Parameter) (operationId : Option String)
    (type : Parameter → TypeDescriptor) : Prop where
  /-- Binding fails if and only if a placeholder has no parameter of its name, and names the first of
  these placeholders. -/
  error_iff : ∀ failure,
    s.classify names path (mergeParameters shared own) operationId = .error failure ↔
      ∃ placeholder, (Naming.placeholders path).find? (isUnbound shared own) = some placeholder ∧
        failure = .unboundPlaceholder path placeholder operationId
  /-- Otherwise there is one parameter in the path for each placeholder, which is what that is bound
  to, and the parameters in the query are those declared there. -/
  ok_iff : ∀ inPath inQuery,
    s.classify names path (mergeParameters shared own) operationId = .ok (inPath, inQuery) ↔
      List.Forall₂ (Binds shared own type) (Naming.placeholders path) inPath ∧
        inQuery = queryParameters shared own type

section encoded

variable (htype : ∀ p ∈ shared ++ own, s.typeOf names p.position = .ok (type p))

include htype

theorem pathParam_eq_ok_iff {param : Param} :
    s.pathParam names path (mergeParameters shared own) operationId placeholder = .ok param ↔
      Binds shared own type placeholder param := by
  rw [pathParam, parameterFor?_mergeParameters, Binds]
  cases hbound : boundParameter? shared own placeholder with
  | none => simp
  | some p =>
    obtain ⟨hp, rfl⟩ := mem_of_boundParameter? hbound
    dsimp only
    rw [paramOf_eq (htype p hp)]
    simp [eq_comm]

theorem pathParam_eq_error_iff {failure : Failure} :
    s.pathParam names path (mergeParameters shared own) operationId placeholder = .error failure ↔
      isUnbound shared own placeholder = true ∧
        failure = .unboundPlaceholder path placeholder operationId := by
  rw [pathParam, parameterFor?_mergeParameters, ← boundParameter?_eq_none_iff]
  cases hbound : boundParameter? shared own placeholder with
  | none => simp [eq_comm]
  | some p =>
    dsimp only
    rw [paramOf_eq (htype p (mem_of_boundParameter? hbound).1)]
    simp

theorem mapM_paramOf_query :
    ((mergeParameters shared own).filter fun p => p.location == .query).mapM
      (s.paramOf names .query) = .ok (queryParameters shared own type) := by
  rw [mergeParameters_eq]
  refine (mapM_congr fun p hp => ?_).trans List.mapM_pure
  exact paramOf_eq (htype p (mem_of_mem_declaredParameters (List.mem_of_mem_filter hp)))

/-- With an encoder that does not fail, the parameters of a path and an operation are bound to the
placeholders of the path. -/
theorem bindsParameters :
    s.BindsParameters names path shared own operationId type := by
  have hquery := mapM_paramOf_query htype
  constructor
  · intro failure
    rw [classify, hquery, bind_eq_error, or_iff_left fun ⟨inPath, _, h⟩ => by cases h]
    exact mapM_eq_error_iff fun placeholder _ failure => pathParam_eq_error_iff htype
  · intro inPath inQuery
    rw [classify, hquery, bind_eq_ok]
    constructor
    · rintro ⟨inPath, hpath, h⟩
      cases h
      exact ⟨(mapM_eq_ok_iff.1 hpath).imp fun _ _ => (pathParam_eq_ok_iff htype).1, rfl⟩
    · rintro ⟨hpath, rfl⟩
      exact ⟨inPath, mapM_eq_ok_iff.2 (hpath.imp fun _ _ => (pathParam_eq_ok_iff htype).2), rfl⟩

end encoded

/-- A setting in which a type tells the pointer to its schema. -/
def pointing : Setting :=
  ⟨⟨⟨"", "", none⟩, "", .empty, .null⟩, default, .standard,
    fun _ _ p => .ok (.primitive p.pointer none)⟩

/-- Parameters of a path, one of them declared twice. -/
def sharedPets : List Parameter :=
  [⟨"id", .query, false, none, .null, "#/p/0"⟩, ⟨"id", .path, true, none, .null, "#/p/1"⟩,
    ⟨"id", .path, true, none, .null, "#/p/2"⟩, ⟨"kind", .header, false, none, .null, "#/p/3"⟩]

/-- Parameters of an operation, which declares one of those of the path again. -/
def ownPets : List Parameter :=
  [⟨"kind", .query, false, none, .null, "#/o/0"⟩, ⟨"id", .query, false, none, .null, "#/o/1"⟩]

/-- The placeholder for the id is bound to the first declaration in the path, and the one for the kind
to that in the header, which comes before the one in the query. -/
example : (boundParameter? sharedPets ownPets "id").map Parameter.pointer = some "#/p/1" ∧
    (boundParameter? sharedPets ownPets "kind").map Parameter.pointer = some "#/p/3" ∧
    (queryParameters sharedPets ownPets fun _ => .any).map Param.name = ["kind", "id"] := by
  decide

/-- The parameters of pets can be encoded and are bound. -/
theorem bindsParameters_pets :
    (∀ p ∈ sharedPets ++ ownPets,
      pointing.typeOf .empty p.position = .ok (.primitive p.pointer none)) ∧
    pointing.BindsParameters .empty "/pets/{kind}/{id}/{kind}" sharedPets ownPets none
      fun p => .primitive p.pointer none :=
  ⟨fun _ _ => rfl, bindsParameters fun _ _ => rfl⟩

end Setting

end ClientPlan
