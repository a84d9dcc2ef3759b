import ClientPlan.Proofs.Document.Agreement

/-!
# Added components

`Value.addComponent` adds an entry to the component schemas of a document.  A reference that neither
leads to the new entry nor passes through it nor leads to a mapping around it is apart from it, and
leads to the same with and without it.  So the two documents agree on the references apart
(`agreeOn_of_alteredAt`), and they still do when a field for mappings with text keys holds them
(`alike_mappingField`).
-/

set_option autoImplicit false

namespace ClientPlan

/-! ## Changed documents -/

/-- Some entries with the value at a text key changed. -/
def changeEntry (key : String) (f : Value → Value) : Entries → Entries
  | [] => []
  | (k, v) :: r => if k.isText key then (k, f v) :: r else (k, v) :: changeEntry key f r

namespace Value

/-- A mapping with the value at a text key changed. -/
def changeAt (key : String) (f : Value → Value) : Value → Value
  | map entries => map (changeEntry key f entries)
  | v => v

/-- A mapping with one more entry after the first `i`. -/
def insertAt (i : Nat) (e : Value × Value) : Value → Value
  | map entries => map (entries.insertIdx i e)
  | v => v

/-- A document with one more component schema, after the first `i`. -/
def addComponent (document : Value) (i : Nat) (key : String) (node : Value) : Value :=
  document.changeAt "components" (changeAt "schemas" (insertAt i (.str key, node)))

end Value

/-- Whether a reference is apart from a component: it does not lead to it, through it or to a
mapping around it. -/
def apartFrom (key ref : String) : Bool :=
  match Pointer.segments? ref with
  | none => true
  | some path => !path.isPrefixOf (componentPath key) && !(componentPath key).isPrefixOf path

/-! ## Entries that differ at a key -/

/-- Two entries have the same key, and the same value too unless the key is the text `key`, whose
value may be changed. -/
def AlteredAt (key : String) (f : Value → Value) (e e' : Value × Value) : Prop :=
  e'.1 = e.1 ∧ (e'.2 = e.2 ∨ e.1 = .str key ∧ e'.2 = f e.2)

section

variable {key : String} {f : Value → Value} {entries entries' : Entries}

theorem AlteredAt.refl (e : Value × Value) : AlteredAt key f e e := ⟨rfl, .inl rfl⟩

theorem alteredAt_changeEntry :
    List.Forall₂ (AlteredAt key f) entries (changeEntry key f entries) := by
  induction entries with
  | nil => exact .nil
  | cons e r ih =>
    obtain ⟨k, v⟩ := e
    rw [changeEntry]
    split
    · next hk =>
      have hrest : List.Forall₂ (AlteredAt key f) r r := List.forall₂_same.2 fun e _ => .refl e
      exact .cons ⟨rfl, .inr ⟨Value.eq_str_of_isText hk, rfl⟩⟩ hrest
    · exact .cons (.refl _) ih

theorem map_fst_of_alteredAt (h : List.Forall₂ (AlteredAt key f) entries entries') :
    entries'.map Prod.fst = entries.map Prod.fst := by
  induction h with
  | nil => rfl
  | cons he _ ih => rw [List.map_cons, List.map_cons, he.1, ih]

/-- The values at a key are the same, or one is the other changed. -/
theorem lookupText_of_alteredAt (h : List.Forall₂ (AlteredAt key f) entries entries')
    (k : String) : lookupText k entries' = lookupText k entries ∨
      k = key ∧ lookupText k entries' = (lookupText k entries).map f := by
  induction h with
  | nil => exact .inl rfl
  | @cons e e' r r' he _ ih =>
    obtain ⟨k', v⟩ := e
    obtain ⟨k'', v'⟩ := e'
    obtain ⟨hk, hv⟩ := he
    cases hk
    cases k' with
    | str t =>
      rw [lookupText, lookupText]
      by_cases ht : t = k
      · rw [if_pos ht, if_pos ht]
        rcases hv with hv | ⟨hkey, hv⟩
        · exact .inl (congrArg some hv)
        · cases hkey
          exact .inr ⟨ht.symm, congrArg some hv⟩
      · rw [if_neg ht, if_neg ht]
        exact ih
    | _ => exact ih

/-! ## Ways that pass by a change -/

/-- A way that passes by whatever is changed leads to the same. -/
theorem walk_of_alteredAt (h : List.Forall₂ (AlteredAt key f) entries entries') {ref : String}
    {path : List String} (hne : path ≠ [])
    (hf : ∀ rest, path = key :: rest → ∀ v, Pointer.walk ref (f v) rest = Pointer.walk ref v rest) :
    Pointer.walk ref (.map entries') path = Pointer.walk ref (.map entries) path := by
  cases path with
  | nil => exact absurd rfl hne
  | cons k rest =>
    rw [Pointer.walk, Pointer.walk, Pointer.step, Pointer.step]
    rcases lookupText_of_alteredAt h k with hk | ⟨rfl, hk⟩
    · rw [hk]
    · rw [hk]
      cases lookupText k entries with
      | none => rfl
      | some v => exact hf rest rfl v

theorem walk_changeAt {ref : String} {path : List String} (hne : path ≠ [])
    (hf : ∀ rest, path = key :: rest → ∀ v, Pointer.walk ref (f v) rest = Pointer.walk ref v rest)
    (v : Value) : Pointer.walk ref (v.changeAt key f) path = Pointer.walk ref v path := by
  cases v with
  | map entries => exact walk_of_alteredAt alteredAt_changeEntry hne hf
  | _ => rfl

theorem lookupText_insertIdx {i : Nat} {node : Value} {k : String} (hk : k ≠ key) :
    lookupText k (entries.insertIdx i (.str key, node)) = lookupText k entries := by
  induction entries generalizing i with
  | nil =>
    cases i with
    | zero => exact if_neg (Ne.symm hk)
    | succ i => rfl
  | cons e r ih =>
    cases i with
    | zero => exact if_neg (Ne.symm hk)
    | succ i =>
      obtain ⟨k', v⟩ := e
      rw [List.insertIdx_succ_cons]
      cases k' with
      | str t => rw [lookupText, lookupText, ih]
      | _ => exact ih

/-- A way that does not start with the new key leads to the same. -/
theorem walk_insertAt {ref : String} {path : List String} (hne : path ≠ [])
    (hkey : ∀ rest, path ≠ key :: rest) (i : Nat) (node v : Value) :
    Pointer.walk ref (v.insertAt i (.str key, node)) path = Pointer.walk ref v path := by
  cases v with
  | map entries =>
    cases path with
    | nil => exact absurd rfl hne
    | cons k rest =>
      have hk : k ≠ key := fun heq => hkey rest (heq ▸ rfl)
      rw [Value.insertAt, Pointer.walk, Pointer.walk, Pointer.step, Pointer.step,
        lookupText_insertIdx hk]
  | _ => rfl

/-! ## References apart -/

/-- A reference apart from a new component leads to the same without it. -/
theorem resolve_of_alteredAt {i : Nat} {node : Value}
    (h : List.Forall₂ (AlteredAt "components" (Value.changeAt "schemas"
      (Value.insertAt i (.str key, node)))) entries entries') {ref : String}
    (href : apartFrom key ref = true) :
    Pointer.resolve (.map entries') ref = Pointer.resolve (.map entries) ref := by
  rw [Pointer.resolve, Pointer.resolve]
  rw [apartFrom] at href
  cases hpath : Pointer.segments? ref with
  | none => rfl
  | some path =>
    rw [hpath] at href
    simp only [Bool.and_eq_true, Bool.not_eq_true', ← Bool.not_eq_true, List.isPrefixOf_iff_prefix]
      at href
    obtain ⟨haround, hthrough⟩ := href
    -- The way would be around or through the component if it ended early or went on to its key.
    refine walk_of_alteredAt h (fun hnil => haround (hnil ▸ List.nil_prefix)) ?_
    rintro rest rfl v
    refine walk_changeAt (fun hnil => haround ?_) ?_ v
    · rw [hnil]
      exact ⟨["schemas", key], rfl⟩
    rintro rest' rfl w
    refine walk_insertAt (fun hnil => haround ?_) (fun more hmore => hthrough ?_) i node w
    · rw [hnil]
      exact ⟨[key], rfl⟩
    · rw [hmore]
      exact ⟨more, rfl⟩

/-- Documents that differ by a component agree on the references apart from it. -/
theorem agreeOn_of_alteredAt {i : Nat} {node : Value}
    (h : List.Forall₂ (AlteredAt "components" (Value.changeAt "schemas"
      (Value.insertAt i (.str key, node)))) entries entries')
    (hd : (Value.map entries).RefersWithin (apartFrom key)) :
    AgreeOn (apartFrom key) (.map entries) (.map entries') where
  resolve _ href := resolve_of_alteredAt h href
  closed _ _ _ hv := hd.of_resolve hv

/-! ## Checked documents -/

theorem alike_checkEntries (h : List.Forall₂ (AlteredAt key f) entries entries') (name : String) :
    Alike (List.Forall₂ (AlteredAt key f)) (checkEntries name entries)
      (checkEntries name entries') := by
  induction h with
  | nil => exact .ok .nil
  | @cons e e' r r' he _ ih =>
    obtain ⟨k, v⟩ := e
    obtain ⟨k', v'⟩ := e'
    obtain ⟨hk, hv⟩ := he
    cases hk
    rw [checkEntries, checkEntries]
    generalize checkEntries name r = x at ih ⊢
    generalize checkEntries name r' = x' at ih ⊢
    cases hs : checkText [.field name, keyStep k, .field "[key]"] k with
    | error issues => cases ih <;> exact .error _
    | ok s =>
      cases ih with
      | error issues => exact .error _
      | ok hl =>
        refine .ok (.cons ⟨rfl, hv.imp_right fun hkey => ⟨?_, hkey.2⟩⟩ hl)
        -- The key that may be changed is a text, and it is taken for itself.
        have hk : k = .str key := hkey.1
        rw [hk] at hs
        cases hs
        rfl

theorem alteredAt_setEntry (h : List.Forall₂ (AlteredAt key f) entries entries') {k v v' : Value}
    (hv : AlteredAt key f (k, v) (k, v')) :
    List.Forall₂ (AlteredAt key f) (setEntry k v entries) (setEntry k v' entries') := by
  induction h with
  | nil => exact .cons hv .nil
  | @cons e e' r r' he hr ih =>
    obtain ⟨k', w⟩ := e
    obtain ⟨k'', w'⟩ := e'
    cases he.1
    rw [setEntry, setEntry]
    split
    · next hk =>
      refine .cons ⟨rfl, hv.2.imp_right fun hkey => ⟨?_, hkey.2⟩⟩ hr
      exact Value.agrees_str.1 (hkey.1 ▸ hk)
    · exact .cons he ih

theorem alteredAt_foldl_setEntry {l l' : Entries} (hl : List.Forall₂ (AlteredAt key f) l l')
    (h : List.Forall₂ (AlteredAt key f) entries entries') :
    List.Forall₂ (AlteredAt key f) (l.foldl (fun entries e => setEntry e.1 e.2 entries) entries)
      (l'.foldl (fun entries e => setEntry e.1 e.2 entries) entries') := by
  induction hl generalizing entries entries' with
  | nil => exact h
  | @cons e e' r r' he _ ih =>
    obtain ⟨k, v⟩ := e
    obtain ⟨k', v'⟩ := e'
    cases he.1
    exact ih (alteredAt_setEntry h he)

/-- Two documents are mappings that differ at a key only. -/
def MapsAlteredAt (key : String) (f : Value → Value) (document document' : Value) : Prop :=
  ∃ entries entries', document = .map entries ∧ document' = .map entries' ∧
    List.Forall₂ (AlteredAt key f) entries entries'

/-- Fields for mappings with text keys hold mappings that differ at a key only, if they are given
such mappings. -/
theorem alike_mappingField (h : List.Forall₂ (AlteredAt key f) entries entries') (name : String) :
    Alike (MapsAlteredAt key f) (mappingField name (.map entries))
      (mappingField name (.map entries')) := by
  have hkeys : (entries'.all fun e => e.1.isStr) = entries.all fun e => e.1.isStr := by
    have hall : ∀ l : Entries, (l.all fun e => e.1.isStr) = (l.map Prod.fst).all Value.isStr :=
      fun l => by rw [List.all_map]; rfl
    rw [hall, hall, map_fst_of_alteredAt h]
  rw [mappingField, mappingField, hkeys]
  split
  · exact .ok ⟨entries, entries', rfl, rfl, h⟩
  · exact (alike_checkEntries h name).map fun l l' _ hl =>
      ⟨_, _, rfl, rfl, alteredAt_foldl_setEntry hl .nil⟩

end

end ClientPlan
