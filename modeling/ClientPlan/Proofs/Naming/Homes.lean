import ClientPlan.Plan.Policy
import ClientPlan.Proofs.Naming.Token
import ClientPlan.Proofs.Outcome
import Mathlib.Data.List.Nodup

/-!
# The homes of an endpoint

The standard policy always finds homes for an endpoint: those of its id or, if one of them has no
function name, those of the id that its method and path stand for (`outcome_standardHomes`).  There
is one home for each type name of a tag, and a single home if no tag has a type name.  The homes of an
id are in different modules, which are named by letters and digits.
-/

set_option autoImplicit false

namespace ClientPlan

namespace Naming

variable {id name : String} {tags : List String}

/-! ## Homes of ids -/

/-- The home that is named after a tag. -/
def tagHome (id name : String) : Home :=
  ⟨[name], String.ofList (withoutHome name (normalize id.toList))⟩

/-- The modules of tags are their type names, as far as they have one. -/
theorem mem_tagHomes_iff : name ∈ tagHomes tags ↔ name ≠ "" ∧ ∃ t ∈ tags, typeName t = name := by
  rw [tagHomes, List.mem_filter, List.mem_eraseDups, List.mem_map, bne_iff_ne, and_comm]

theorem nodup_tagHomes (tags : List String) : (tagHomes tags).Nodup :=
  (nodup_eraseDups _).sublist List.filter_sublist

/-- An id whose tags have no type names is at home where it says itself. -/
theorem homes_of_untagged (h : tagHomes tags = []) : homes id tags = [pathHome id] := by
  rw [homes, h]

/-- Otherwise it is at home at every type name of a tag. -/
theorem homes_of_tagged (h : tagHomes tags ≠ []) :
    homes id tags = (tagHomes tags).map (tagHome id) := by
  rw [homes]
  split
  · next hnil => exact absurd hnil h
  · rfl

theorem homes_ne_nil (id : String) (tags : List String) : homes id tags ≠ [] := by
  by_cases h : tagHomes tags = []
  · rw [homes_of_untagged h]
    exact List.cons_ne_nil _ _
  · rw [homes_of_tagged h]
    exact mt List.map_eq_nil_iff.1 h

/-- The homes of an id are in different modules. -/
theorem nodup_modules_homes (id : String) (tags : List String) :
    ((homes id tags).map Home.modules).Nodup := by
  by_cases h : tagHomes tags = []
  · rw [homes_of_untagged h]
    exact List.nodup_singleton _
  · rw [homes_of_tagged h, List.map_map]
    exact (nodup_tagHomes tags).map fun _ _ heq => (List.cons.inj heq).1

/-- The modules of a home are named by texts of letters and digits. -/
theorem isAlphanum_of_mem_homes {home : Home} (h : home ∈ homes id tags) :
    ∀ m ∈ home.modules, m ≠ "" ∧ ∀ c ∈ m.toList, c.isAlphanum = true := by
  intro m hm
  by_cases htags : tagHomes tags = []
  · rw [homes_of_untagged htags, List.mem_singleton] at h
    subst h
    obtain ⟨hm, hne⟩ := List.mem_filter.1 hm
    obtain ⟨segment, -, rfl⟩ := List.mem_map.1 hm
    have hname : String.ofList (typeCase segment) = typeName (String.ofList segment) := by
      rw [typeName, String.toList_ofList]
    exact ⟨bne_iff_ne.1 hne, fun c hc => isAlphanum_of_mem_typeName (hname ▸ hc)⟩
  · rw [homes_of_tagged htags] at h
    obtain ⟨name, hname, rfl⟩ := List.mem_map.1 h
    obtain ⟨hne, t, -, rfl⟩ := mem_tagHomes_iff.1 hname
    rw [List.mem_singleton.1 hm]
    exact ⟨hne, fun c => isAlphanum_of_mem_typeName⟩

end Naming

/-! ## Homes of endpoints -/

namespace Endpoint

variable (e : Endpoint)

/-- The id that the method and the path stand for. -/
def fallbackId : String := Naming.fallbackId e.method.name e.path

/-- The id that is given, or else the one that the method and the path stand for. -/
def givenId : String := (e.operationId.filter (· != "")).getD e.fallbackId

/-- The id that names an endpoint: the given one, if it leaves a function name at every home. -/
def effectiveId : String :=
  if (Naming.homes e.givenId e.tags).any fun h => h.function == "" then e.fallbackId
  else e.givenId

/-- The homes of an endpoint are those of its effective id. -/
theorem outcome_standardHomes :
    (Policy.standardHomes e).outcome = .ok (Naming.homes e.effectiveId e.tags) := by
  unfold Policy.standardHomes effectiveId
  dsimp only
  show (if (Naming.homes e.givenId e.tags).any _ = true then _ else _ : Logged _).outcome = _
  split
  · rfl
  · rfl

end Endpoint

end ClientPlan
