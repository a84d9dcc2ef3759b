import ClientPlan.Proofs.Naming.Boundaries

/-!
# The words of a tag in front of an id

At the home that is named after a tag, an id loses the words that its name shares with the home.  These
are read off the type name of the tag and not off the tag itself, so they are the words of the tag just
if those stand apart.  Main statement: the exact condition for a function to be the id without the words
of the tag (`function_eq_withoutTag_iff`).
-/

set_option autoImplicit false

namespace ClientPlan.Naming

variable {id s t : String} {tags : List String} {function : List Char}

/-! ## What is taken away -/

/-- A name starts with the words of a text and goes on behind an underscore. -/
def LeadsWith (s : String) (function : List Char) : Prop :=
  normalize s.toList ++ ['_'] <+: function

instance (s : String) (function : List Char) : Decidable (LeadsWith s function) :=
  inferInstanceAs (Decidable (_ <+: _))

theorem withoutHome_of_leadsWith (h : LeadsWith s function) :
    withoutHome s function = function.drop (normalize s.toList ++ ['_']).length :=
  if_pos (List.isPrefixOf_iff_prefix.2 h)

theorem withoutHome_of_not_leadsWith (h : ¬ LeadsWith s function) :
    withoutHome s function = function :=
  if_neg fun hlead => h (List.isPrefixOf_iff_prefix.1 hlead)

/-- What is taken away is all in front of what is left. -/
theorem length_withoutHome_of_leadsWith (h : LeadsWith s function) :
    (withoutHome s function).length + (normalize s.toList ++ ['_']).length = function.length := by
  rw [withoutHome_of_leadsWith h, List.length_drop, Nat.sub_add_cancel h.length_le]

theorem withoutHome_ne (hs : LeadsWith s function) (ht : ¬ LeadsWith t function) :
    withoutHome s function ≠ withoutHome t function := by
  intro heq
  have hlength := length_withoutHome_of_leadsWith hs
  rw [heq, withoutHome_of_not_leadsWith ht, List.length_append, List.length_singleton] at hlength
  omega

/-- Taking away the words of two texts leaves the same if and only if the texts have the same words or
the name starts with neither. -/
theorem withoutHome_eq_iff : withoutHome s function = withoutHome t function ↔
    normalize s.toList = normalize t.toList ∨
      ¬ LeadsWith s function ∧ ¬ LeadsWith t function := by
  constructor
  · intro heq
    by_cases hs : LeadsWith s function
    · by_cases ht : LeadsWith t function
      · -- Both are in front, and as much is left behind both of them.
        have hlength := length_withoutHome_of_leadsWith ht
        rw [← heq, ← length_withoutHome_of_leadsWith hs] at hlength
        have hlength := (Nat.add_left_cancel hlength).symm
        have hstart := List.prefix_of_prefix_length_le hs ht (Nat.le_of_eq hlength)
        exact .inl (List.append_cancel_right (hstart.eq_of_length hlength))
      · exact absurd heq (withoutHome_ne hs ht)
    · exact .inr ⟨hs, fun ht => withoutHome_ne ht hs heq.symm⟩
  · rintro (heq | ⟨hs, ht⟩)
    · rw [withoutHome, withoutHome, heq]
    · rw [withoutHome_of_not_leadsWith hs, withoutHome_of_not_leadsWith ht]

/-! ## Words of tags -/

theorem normalize_typeName_iff :
    normalize (typeName t).toList = normalize t.toList ↔ (tokens t.toList).IsChain StandApart := by
  rw [← tokens_typeCase_iff, typeName, String.toList_ofList]
  exact ⟨joined_inj (areWords_tokens _) (areWords_tokens _), congrArg joined⟩

/-- The function at the home of a tag is the id without the words of the first tag of that home if
and only if the words of the tag stand apart, or the id starts neither with them nor with those of the
home.  What is taken away are the words of the home. -/
theorem function_eq_withoutTag_iff {home : Home} (htags : ∃ t ∈ tags, typeName t ≠ "")
    (hhome : home ∈ homes id tags) :
    ∃ t, tags.find? (fun t => home.modules == [typeName t]) = some t ∧
      home = tagHome id (typeName t) ∧
      (home.function = String.ofList (withoutHome t (normalize id.toList)) ↔
        (tokens t.toList).IsChain StandApart ∨
          ¬ LeadsWith (typeName t) (normalize id.toList) ∧ ¬ LeadsWith t (normalize id.toList)) := by
  have hne : tagHomes tags ≠ [] := by
    obtain ⟨t, ht, hname⟩ := htags
    exact List.ne_nil_of_mem (mem_tagHomes_iff.2 ⟨hname, t, ht, rfl⟩)
  rw [homes_of_tagged hne] at hhome
  obtain ⟨name, hname, rfl⟩ := List.mem_map.1 hhome
  obtain ⟨-, t₀, ht₀, rfl⟩ := mem_tagHomes_iff.1 hname
  have hfind : (tags.find? fun t => [typeName t₀] == [typeName t]).isSome = true :=
    List.find?_isSome.2 ⟨t₀, ht₀, beq_self_eq_true _⟩
  obtain ⟨t, ht⟩ := Option.isSome_iff_exists.1 hfind
  have hfound : ([typeName t₀] == [typeName t]) = true :=
    List.find?_some (p := fun t => [typeName t₀] == [typeName t]) ht
  have hsame : typeName t₀ = typeName t := (List.cons.inj (eq_of_beq hfound)).1
  refine ⟨t, ht, congrArg _ hsame, ?_⟩
  rw [← normalize_typeName_iff, ← withoutHome_eq_iff, ← hsame]
  exact ⟨fun heq => String.ofList_injective heq, congrArg String.ofList⟩

/-- Of two tags with one home the first one counts, and its words are taken away. -/
theorem function_eq_withoutTag_pets :
    (∃ t ∈ ["!", "Big Pets", "big-pets"], typeName t ≠ "") ∧
      (⟨["BigPets"], "list"⟩ : Home) ∈ homes "bigPetsList" ["!", "Big Pets", "big-pets"] ∧
      ∃ t, ["!", "Big Pets", "big-pets"].find? (fun t => ["BigPets"] == [typeName t]) = some t ∧
        (⟨["BigPets"], "list"⟩ : Home) = tagHome "bigPetsList" (typeName t) ∧
        ("list" = String.ofList (withoutHome t (normalize "bigPetsList".toList)) ↔
          (tokens t.toList).IsChain StandApart ∨
            ¬ LeadsWith (typeName t) (normalize "bigPetsList".toList) ∧
              ¬ LeadsWith t (normalize "bigPetsList".toList)) := by
  have htags : ∃ t ∈ ["!", "Big Pets", "big-pets"], typeName t ≠ "" :=
    ⟨"big-pets", by decide, by decide +kernel⟩
  have hhome : (⟨["BigPets"], "list"⟩ : Home) ∈
      homes "bigPetsList" ["!", "Big Pets", "big-pets"] := by decide +kernel
  exact ⟨htags, hhome, function_eq_withoutTag_iff htags hhome⟩

/-- A tag that begins with a single letter runs into one word, and then its words stay in front of the
id. -/
theorem function_ne_withoutTag_ray : ¬ (tokens "x-ray".toList).IsChain StandApart ∧
    LeadsWith "x-ray" (normalize "x_ray_list".toList) ∧
    ["x-ray"].find? (fun t => ["XRay"] == [typeName t]) = some "x-ray" ∧
    homes "x_ray_list" ["x-ray"] = [⟨["XRay"], "x_ray_list"⟩] ∧
    String.ofList (withoutHome "x-ray" (normalize "x_ray_list".toList)) = "list" := by
  decide +kernel

end ClientPlan.Naming
