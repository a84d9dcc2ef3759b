import ClientPlan.Load.Document
import ClientPlan.Proofs.Load.Building
import ClientPlan.Proofs.Load.Json

/-!
# Loaded documents

Every document that is loaded is well keyed (`Surroundings.wellKeyed_of_load`), be it in JSON or in
YAML, and in JSON all its keys are texts.  In YAML a node may have an alias at which it has no value
yet; there it counts as absent.  So a key is the scalar that its node has become, or absent (`Fits`).
-/

set_option autoImplicit false

namespace ClientPlan

namespace Yaml

/-! ## Values of nodes -/

/-- Values of all nodes fit to what the nodes have become. -/
structure Fits (made : Array (Option Made)) (values : Array Value) : Prop where
  /-- The values are well keyed. -/
  keyed : ∀ n, (values.getD n .null).WellKeyed
  /-- They hold mappings as members only if they are lists. -/
  proper : ∀ n, (values.getD n .null).isProper = true
  /-- What has become a scalar is that scalar, or absent. -/
  scalar : ∀ {n v}, scalarAt? made n = some v →
    values.getD n .null = .null ∨ values.getD n .null = v

section

variable {b : Building} {values : Array Value}

theorem Building.Sound.isScalar (hs : b.Sound) {n : Nat} {v : Value}
    (h : scalarAt? b.made n = some v) : v.isScalar = true := by
  rw [scalarAt?, Array.getD_eq_getD_getElem?] at h
  obtain ⟨m, hm, hv⟩ := Option.bind_eq_some_iff.1 h
  cases hmade : b.made[n]? with
  | none =>
    rw [hmade] at hm
    cases hm
  | some found =>
    rw [hmade] at hm
    cases hm
    cases m with
    | scalar w identity =>
      cases hv
      exact hs.keyed hmade
    | _ => cases hv

/-- What stands at a key is no collection. -/
theorem Fits.isScalar (hf : Fits b.made values) (hs : b.Sound) {n : Nat} {v : Value}
    (h : scalarAt? b.made n = some v) : (values.getD n .null).isScalar = true := by
  rcases hf.scalar h with hv | hv
  · rw [hv]
    rfl
  · rw [hv]
    exact hs.isScalar h

/-- What reads as a text at a key is the scalar that the key has become. -/
theorem Fits.scalarAt?_of_text (hf : Fits b.made values) {n : Nat} {v : Value}
    (h : scalarAt? b.made n = some v) {s : String} (hs : (values.getD n .null).text? = some s) :
    scalarAt? b.made n = some (.str s) := by
  rcases hf.scalar h with hv | hv
  · rw [hv] at hs
    cases hs
  · rw [hv] at hs
    cases v with
    | str t =>
      cases hs
      exact h
    | _ => cases hs

theorem Fits.wellKeyed_map (hf : Fits b.made values) (hs : b.Sound) {entries : List (Nat × Nat)}
    (h : KeysApart b.made entries) : ((Made.map entries).value values).WellKeyed := by
  have hmem : ∀ {e : Value × Value}, e ∈ entries.map (fun e =>
      (values.getD e.1 .null, values.getD e.2 .null)) → ∃ e' ∈ entries,
        (values.getD e'.1 .null, values.getD e'.2 .null) = e := fun he => List.mem_map.1 he
  refine Value.everyMap_map (Bool.and_eq_true_iff.2 ⟨?_, mappingsInLists_iff.2 ?_⟩) ?_
  · rw [distinctTexts, decide_eq_true_eq, List.filterMap_map, List.Nodup, List.pairwise_filterMap]
    refine h.apart.imp_of_mem fun {e e'} he he' hapart s hs s' hs' heq => ?_
    obtain ⟨v, hv⟩ := h.scalar e he
    obtain ⟨v', hv'⟩ := h.scalar e' he'
    cases heq
    exact hapart s (hf.scalarAt?_of_text hv hs) (hf.scalarAt?_of_text hv' hs')
  · intro _ hentry
    obtain ⟨e, he, rfl⟩ := hmem hentry
    obtain ⟨v, hv⟩ := h.scalar e he
    exact ⟨Value.isMap_of_isScalar (hf.isScalar hs hv), hf.proper e.2⟩
  · intro _ hentry
    obtain ⟨e, -, rfl⟩ := hmem hentry
    exact hf.keyed e.2

theorem Fits.itemsEveryMap (hf : Fits b.made values) (numbers : List Nat) :
    Value.itemsEveryMap wellKeyed (numbers.map fun n => values.getD n .null) = true := by
  refine Value.itemsEveryMap_of_forall fun v hv => ?_
  obtain ⟨n, -, rfl⟩ := List.mem_map.1 hv
  exact hf.keyed n

/-- The value of what a node has become is well keyed. -/
theorem Fits.wellKeyed (hf : Fits b.made values) (hs : b.Sound) {m : Made}
    (h : m.Keyed b.made) : (m.value values).WellKeyed ∧ (m.value values).isProper = true := by
  cases m with
  | scalar v identity => exact ⟨Value.everyMap_of_isScalar h, Value.isProper_of_isScalar h⟩
  | waiting => exact ⟨rfl, rfl⟩
  | list items => exact ⟨hf.itemsEveryMap items, rfl⟩
  | map entries => exact ⟨hf.wellKeyed_map hs h, rfl⟩
  | set members =>
    refine ⟨hf.itemsEveryMap members, List.all_eq_true.2 fun v hv => ?_⟩
    obtain ⟨n, hn, rfl⟩ := List.mem_map.1 hv
    obtain ⟨w, hw⟩ := h n hn
    rw [Value.isMap_of_isScalar (hf.isScalar hs hw)]
    rfl
  | pairs entries =>
    refine ⟨Value.itemsEveryMap_of_forall fun v hv => ?_, rfl⟩
    obtain ⟨⟨k, w⟩, -, rfl⟩ := List.mem_map.1 hv
    exact hf.itemsEveryMap [k, w]

/-- Values still fit when a node gets its value. -/
theorem Fits.set (hf : Fits b.made values) (hs : b.Sound) {number : Nat} {m : Made}
    (h : b.made.getD number none = some m) :
    Fits b.made (values.setIfInBounds number (m.value values)) := by
  have hkeyed : m.Keyed b.made := by
    rw [Array.getD_eq_getD_getElem?] at h
    cases hmade : b.made[number]? with
    | none =>
      rw [hmade] at h
      cases h
    | some found =>
      rw [hmade] at h
      cases h
      exact hs.keyed hmade
  obtain ⟨hvalue, hproper⟩ := hf.wellKeyed hs hkeyed
  have hcases : ∀ n, (n = number ∧ (values.setIfInBounds number (m.value values)).getD n .null =
      m.value values) ∨ (values.setIfInBounds number (m.value values)).getD n .null =
        values.getD n .null := by
    intro n
    rw [Array.getD_eq_getD_getElem?, Array.getD_eq_getD_getElem?, Array.getElem?_setIfInBounds]
    by_cases hn : number = n
    · by_cases hb : number < values.size
      · rw [if_pos hn, if_pos hb]
        exact .inl ⟨hn.symm, rfl⟩
      · rw [if_pos hn, if_neg hb, ← hn, Array.getElem?_eq_none (Nat.le_of_not_lt hb)]
        exact .inr rfl
    · rw [if_neg hn]
      exact .inr rfl
  refine ⟨fun n => ?_, fun n => ?_, fun {n v} hv => ?_⟩
  · rcases hcases n with ⟨-, hn⟩ | hn
    · rwa [hn]
    · rw [hn]
      exact hf.keyed n
  · rcases hcases n with ⟨-, hn⟩ | hn
    · rwa [hn]
    · rw [hn]
      exact hf.proper n
  · rcases hcases n with ⟨rfl, hn⟩ | hn
    · rw [scalarAt?, h] at hv
      cases m with
      | scalar w identity =>
        cases hv
        exact .inr hn
      | _ => cases hv
    · rw [hn]
      exact hf.scalar hv

theorem fits_valuesOnce (hf : Fits b.made values) (hs : b.Sound) :
    Fits b.made (valuesOnce b.made values) := by
  rw [valuesOnce]
  induction List.range b.made.size with
  | nil => exact hf
  | cons number r ih =>
    rw [List.foldr_cons]
    split
    · next m hm => exact ih.set hs hm
    · exact ih

theorem fits_valuesAfter (hs : b.Sound) (n : Nat) : Fits b.made (valuesAfter b.made n) := by
  induction n with
  | zero =>
    have hnull : ∀ n, (Array.replicate b.made.size Value.null).getD n .null = .null := fun n => by
      rw [Array.getD_eq_getD_getElem?, Array.getElem?_replicate]
      split <;> rfl
    rw [valuesAfter]
    refine ⟨fun n => ?_, fun n => ?_, fun _ => .inl (hnull _)⟩
    · rw [hnull]
      rfl
    · rw [hnull]
      rfl
  | succ n ih => exact fits_valuesOnce ih hs

end

/-- The value of a document is well keyed. -/
theorem wellKeyed_of_value {g : Graph} {v : Value} (h : g.value = .ok v) : v.WellKeyed := by
  obtain ⟨⟨u, b⟩, hbuild, h⟩ := bind_eq_ok.1 h
  cases h
  obtain ⟨u', b₁, hmeet, hfill⟩ := Build.bind_eq_ok.1 hbuild
  have hstart : Building.Sound ⟨g.nodes, Array.replicate g.nodes.size none, []⟩ := by
    refine ⟨fun {n m} hn => ?_, fun n hn => absurd hn List.not_mem_nil⟩
    replace hn : (Array.replicate g.nodes.size (none : Option Made))[n]? = some (some m) := hn
    rw [Array.getElem?_replicate] at hn
    split at hn <;> cases hn
  have hto := Build.advances_of_eq_ok (Build.advances_meet g.root) hmeet
  have hs := Build.sound_of_fillAll (hto.sound hstart) hfill
  exact (fits_valuesAfter hs _).keyed g.root

/-- A value that is read from YAML is well keyed. -/
theorem wellKeyed_of_read {s : String} {v : Value} (h : read s = .ok (some v)) : v.WellKeyed := by
  unfold read at h
  dsimp only at h
  split at h
  · cases h
  · obtain ⟨g?, hg, h⟩ := bind_eq_ok.1 h
    cases g? with
    | none => cases h
    | some g =>
      obtain ⟨w, hw, h⟩ := bind_eq_ok.1 h
      cases h
      exact wellKeyed_of_value hw

end Yaml

/-! ## Documents -/

section

variable {stack : Stack} {text : String} {v : Value}

theorem wellKeyed_of_yamlValue (h : yamlValue stack text = .ok v) : v.WellKeyed := by
  unfold yamlValue at h
  split at h
  · cases h
  split at h
  · next found hread =>
    cases h
    cases found with
    | none => rfl
    | some v => exact Yaml.wellKeyed_of_read hread
  · cases h
  · cases h

/-- A value that is read from JSON has text keys and is well keyed. -/
theorem wellKeyed_of_jsonValue? (h : jsonValue? stack text = .ok (some v)) :
    v.hasTextKeys = true ∧ v.WellKeyed := by
  have hread : Json.read stack.nesting text = .ok v := by
    unfold jsonValue? at h
    split at h
    · cases h
    · next hread =>
      cases h
      exact hread
    · split at h <;> cases h
  obtain ⟨⟨w, rest⟩, hvalue, hread⟩ := bind_eq_ok.1 hread
  dsimp only at hread
  split at hread
  · cases hread
    have hkeyed := (Json.shaped_of_readValue hvalue).keyed
    refine ⟨Value.everyMap_mono (fun _ ht => ?_) _ hkeyed,
      Value.everyMap_mono (fun _ ht => ?_) _ hkeyed⟩
    · exact (Bool.and_eq_true_iff.1 ht).1
    · obtain ⟨htexts, hlists⟩ := Bool.and_eq_true_iff.1 ht
      exact Bool.and_eq_true_iff.2 ⟨(Bool.and_eq_true_iff.1 htexts).2, hlists⟩
  · cases hread

/-- A document is well keyed, be it in JSON or in YAML. -/
theorem wellKeyed_of_document {d : Dialect} (h : d.document stack text = .ok v) : v.WellKeyed := by
  obtain ⟨w, hvalue, h⟩ := bind_eq_ok.1 h
  have hw : w.WellKeyed := by
    unfold Dialect.value at hvalue
    dsimp only at hvalue
    split at hvalue
    · exact wellKeyed_of_yamlValue hvalue
    · obtain ⟨found, hfound, hvalue⟩ := bind_eq_ok.1 hvalue
      cases found with
      | none => exact wellKeyed_of_yamlValue hvalue
      | some w' =>
        cases hvalue
        exact (wellKeyed_of_jsonValue? hfound).2
  cases w with
  | map entries =>
    cases h
    exact hw
  | _ => cases h

end

/-- A document that is loaded is well keyed. -/
theorem Surroundings.wellKeyed_of_load {s : Surroundings} {source : String} {v : Value}
    (h : s.load source = .ok v) : v.WellKeyed := by
  obtain ⟨⟨text, d⟩, -, h⟩ := bind_eq_ok.1 h
  dsimp only at h
  split at h
  · cases h
  · exact wellKeyed_of_document h

end ClientPlan
