import ClientPlan.Proofs.Naming.Boundaries

/-!
# Names that can be used

Whatever an endpoint says about itself, the standard policy finds homes for it whose names can be used
as they are (`homes_usable`).  Taking away the words of a home never takes away all words of an id, and
the id that a method and a path stand for has at least the word of the method, so a function name is
never empty.
-/

set_option autoImplicit false

namespace ClientPlan

namespace Naming

variable {id name : String} {tags : List String} {words : List (List Char)} {p : Place}

/-! ## Names in words -/

/-- A name is made of runs of lowercase letters and digits with single underscores between them. -/
def IsSnakeCase (name : String) : Prop :=
  ∃ words, words ≠ [] ∧ (∀ w ∈ words, IsWord w) ∧ name.toList = joined words

/-- Joined words are already in the form that joining gives. -/
theorem functionName_joined (h : ∀ w ∈ words, IsWord w) :
    functionName (String.ofList (joined words)) = String.ofList (joined words) := by
  rw [functionName, String.toList_ofList]
  exact congrArg (String.ofList ∘ joined) (tokens_joined h)

/-- Only words that have others behind them are taken away. -/
theorem wordsAt_ne_nil (h : tokens id.toList ≠ []) : wordsAt name id ≠ [] := by
  unfold wordsAt
  dsimp only
  split
  · next hlead =>
    intro hnil
    have hlength := List.drop_eq_nil_iff.1 hnil
    exact hlead.2 (hlead.1.eq_of_length_le hlength)
  · exact h

/-- An id with words and without slashes has words at each of its places. -/
theorem words_ne_nil_of_mem_places (hid : tokens id.toList ≠ []) (hslash : '/' ∉ id.toList)
    (hp : p ∈ places id tags) : p.words ≠ [] := by
  by_cases h : tagHomes tags = []
  · rw [places_of_untagged h, List.mem_singleton, List.splitOn_eq_singleton hslash] at hp
    subst hp
    exact hid
  · rw [places_of_tagged h] at hp
    obtain ⟨name, -, rfl⟩ := List.mem_map.1 hp
    exact wordsAt_ne_nil hid

/-! ## Homes -/

/-- A home whose names can be used as they are. -/
structure Home.IsUsable (home : Home) : Prop where
  /-- The function has a name. -/
  function_ne_empty : home.function ≠ ""
  /-- The name is words with single underscores between them. -/
  isSnakeCase : IsSnakeCase home.function
  /-- Making a function name of it changes nothing. -/
  functionName_eq : functionName home.function = home.function
  /-- The modules are named by letters and digits. -/
  isAlphanum : ∀ m ∈ home.modules, m ≠ "" ∧ ∀ c ∈ m.toList, c.isAlphanum = true

/-- A place where words are left is a home whose names can be used. -/
theorem isUsable_of_mem_places (hp : p ∈ places id tags) (hne : p.words ≠ []) :
    p.home.IsUsable where
  function_ne_empty := mt (Place.function_eq_empty_iff (areWords_of_mem_places hp)).1 hne
  isSnakeCase := ⟨p.words, hne, isWord_of_mem_places hp, String.toList_ofList⟩
  functionName_eq := functionName_joined (isWord_of_mem_places hp)
  isAlphanum := isAlphanum_of_mem_homes (homes_eq_map_places id tags ▸ List.mem_map_of_mem hp)

end Naming

/-! ## Endpoints -/

namespace Endpoint

variable {e : Endpoint} {p : Naming.Place}

theorem fallbackId_eq (e : Endpoint) : e.fallbackId =
    Naming.functionName (String.ofList (e.method.name.toList ++ ' ' :: Naming.spelledOut e.path)) := by
  rw [Naming.functionName, String.toList_ofList]
  rfl

/-- The id that a method and a path stand for has at least the word of the method. -/
theorem tokens_fallbackId_ne_nil (e : Endpoint) : Naming.tokens e.fallbackId.toList ≠ [] := by
  obtain ⟨c, hc, halphanum⟩ : ∃ c ∈ e.method.name.toList, c.isAlphanum = true := by
    cases e.method
    all_goals exact ⟨_, List.mem_cons_self, rfl⟩
  rw [fallbackId_eq, Naming.functionName, String.toList_ofList, String.toList_ofList,
    Naming.tokens_normalize]
  exact Naming.tokens_ne_nil_of_mem (List.mem_append_left _ hc) halphanum

theorem slash_not_mem_fallbackId (e : Endpoint) : '/' ∉ e.fallbackId.toList := by
  intro hslash
  rw [fallbackId_eq] at hslash
  rcases Naming.mem_functionName hslash with heq | hlower
  · exact absurd heq (by decide)
  · exact absurd hlower (by decide)

/-- Words are left at every place of an endpoint. -/
theorem words_ne_nil_of_mem_places (hp : p ∈ e.places) : p.words ≠ [] := by
  unfold places at hp
  dsimp only at hp
  split at hp
  · exact Naming.words_ne_nil_of_mem_places e.tokens_fallbackId_ne_nil
      e.slash_not_mem_fallbackId hp
  · next hgiven =>
    intro hnil
    exact hgiven (List.any_eq_true.2 ⟨p, hp, List.isEmpty_iff.2 hnil⟩)

/-- The standard policy finds homes for every endpoint, in different modules and with names that can
be used. -/
theorem homes_usable (e : Endpoint) :
    ∃ homes, (Policy.standard.homes e).outcome = .ok homes ∧ homes ≠ [] ∧
      (∀ home ∈ homes, home.IsUsable) ∧ (homes.map Naming.Home.modules).Nodup := by
  refine ⟨_, e.outcome_standardHomes, ?_, fun home hhome => ?_, Naming.nodup_modules_homes _ _⟩
  · exact Naming.homes_ne_nil _ _
  · rw [homes_effectiveId] at hhome
    obtain ⟨p, hp, rfl⟩ := List.mem_map.1 hhome
    obtain ⟨id, hid⟩ := e.exists_places
    exact Naming.isUsable_of_mem_places (hid ▸ hp) (words_ne_nil_of_mem_places hp)

end Endpoint

end ClientPlan
