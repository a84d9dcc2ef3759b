import ClientPlan.Naming.Module

/-!
# What names are made of

Tokens are made of lowercase letters and digits.  So a type name is made of letters and digits only,
a function name of lowercase letters, digits and underscores, and a type name that is not empty is
the only part of itself between dots.
-/

set_option autoImplicit false

namespace ClientPlan

namespace Naming

/-! ## Characters -/

theorem toNat_lt_of_isAlphanum {c : Char} (h : c.isAlphanum = true) : c.toNat < 123 := by
  have hbound (last : Char) (hlast : last.toNat < 123) (hc : c.val ≤ last.val) : c.toNat < 123 :=
    Nat.lt_of_le_of_lt (UInt32.le_iff_toNat_le.1 hc) hlast
  rcases Bool.or_eq_true_iff.1 h with halpha | hdigit
  · rcases Bool.or_eq_true_iff.1 halpha with hupper | hlower
    · exact hbound 'Z' (by decide) (of_decide_eq_true hupper).2
    · exact hbound 'z' (by decide) (of_decide_eq_true (Bool.and_eq_true_iff.1 hlower).2)
  · exact hbound '9' (by decide) (of_decide_eq_true (Bool.and_eq_true_iff.1 hdigit).2)

/-- A property of letters and digits that holds of each of them in turn. -/
theorem forall_isAlphanum {P : Char → Prop}
    (h : ∀ n < 123, (Char.ofNat n).isAlphanum = true → P (Char.ofNat n)) {c : Char}
    (hc : c.isAlphanum = true) : P c := by
  have hn := h c.toNat (toNat_lt_of_isAlphanum hc)
  rw [Char.ofNat_toNat] at hn
  exact hn hc

theorem isAlphanum_of_isLower {c : Char} (h : isLower c = true) : c.isAlphanum = true := by
  rcases Bool.or_eq_true_iff.1 h with hlower | hdigit
  · exact Bool.or_eq_true_iff.2 (.inl (Bool.or_eq_true_iff.2 (.inr hlower)))
  · exact Bool.or_eq_true_iff.2 (.inr hdigit)

theorem isLower_toLower {c : Char} (h : c.isAlphanum = true) : isLower c.toLower = true :=
  forall_isAlphanum (P := fun c => isLower c.toLower = true) (by decide) h

theorem isAlphanum_toUpper {c : Char} (h : isLower c = true) : c.toUpper.isAlphanum = true :=
  forall_isAlphanum (P := fun c => c.toUpper.isAlphanum = true) (by decide)
    (isAlphanum_of_isLower h)

/-! ## Names -/

theorem mem_of_mem_intercalate {c : Char} {sep : List Char} {l : List (List Char)}
    (h : c ∈ sep.intercalate l) : c ∈ sep ∨ ∃ t ∈ l, c ∈ t := by
  induction l with
  | nil => cases h
  | cons t r ih =>
    cases r with
    | nil =>
      rw [List.intercalate_singleton] at h
      exact .inr ⟨t, List.mem_singleton_self t, h⟩
    | cons u r =>
      rw [List.intercalate_cons_cons, List.mem_append, List.mem_append] at h
      rcases h with (h | h) | h
      · exact .inr ⟨t, List.mem_cons_self, h⟩
      · exact .inl h
      · exact (ih h).imp_right fun ⟨t', ht', hc⟩ => ⟨t', List.mem_cons_of_mem t ht', hc⟩

theorem isLower_of_mem_tokens {cs t : List Char} {c : Char} (ht : t ∈ tokens cs) (hc : c ∈ t) :
    isLower c = true := by
  have h : c ∈ (tokens cs).flatten := List.mem_flatten.2 ⟨t, ht, hc⟩
  rw [flatten_tokens] at h
  obtain ⟨d, hd, rfl⟩ := List.mem_map.1 h
  have hd := (List.mem_filter.1 hd).2
  exact isLower_toLower (by simpa [isSeparator] using hd)

/-- A text with a letter or digit has a token. -/
theorem tokens_ne_nil_of_mem {cs : List Char} {c : Char} (hc : c ∈ cs) (h : c.isAlphanum = true) :
    tokens cs ≠ [] := by
  intro hnil
  have hflat := flatten_tokens cs
  rw [hnil, List.flatten_nil, eq_comm, List.map_eq_nil_iff, List.filter_eq_nil_iff] at hflat
  exact hflat c hc (by rw [isSeparator, h]; rfl)

theorem isAlphanum_of_mem_capitalize {t : List Char} (ht : ∀ c ∈ t, isLower c = true) {c : Char}
    (hc : c ∈ capitalize t) : c.isAlphanum = true := by
  cases t with
  | nil => cases hc
  | cons d r =>
    rcases List.mem_cons.1 hc with rfl | hc
    · exact isAlphanum_toUpper (ht d List.mem_cons_self)
    · exact isAlphanum_of_isLower (ht c (List.mem_cons_of_mem d hc))

/-- A type name is made of letters and digits. -/
theorem isAlphanum_of_mem_typeName {s : String} {c : Char} (hc : c ∈ (typeName s).toList) :
    c.isAlphanum = true := by
  rw [typeName, String.toList_ofList, typeCase] at hc
  obtain ⟨t, ht, hc⟩ := List.mem_flatMap.1 hc
  exact isAlphanum_of_mem_capitalize (fun d hd => isLower_of_mem_tokens ht hd) hc

/-- A function name is made of lowercase letters, digits and underscores. -/
theorem mem_functionName {s : String} {c : Char} (hc : c ∈ (functionName s).toList) :
    c = '_' ∨ isLower c = true := by
  rw [functionName, String.toList_ofList, normalize] at hc
  rcases mem_of_mem_intercalate hc with hc | ⟨t, ht, hc⟩
  · exact .inl (List.mem_singleton.1 hc)
  · exact .inr (isLower_of_mem_tokens ht hc)

end Naming

/-- A text of letters and digits is the only part of itself. -/
theorem dotParts_of_isAlphanum {s : String} (hs : s ≠ "")
    (h : ∀ c ∈ s.toList, c.isAlphanum = true) : dotParts s = [s] := by
  have hdot : '.' ∉ s.toList := fun hm => absurd (h '.' hm) (by decide)
  rw [dotParts, List.splitOn_eq_singleton hdot]
  simp [hs]

end ClientPlan
