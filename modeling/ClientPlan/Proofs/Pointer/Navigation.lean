import ClientPlan.Proofs.Pointer.Location

/-!
# What pointers name

A pointer is a number sign alone, or a number sign and segments after slashes (`Spells`).  It names
a place in a document (`Names`) if each segment is a key of the mapping it comes to or the index of
an item of the list it comes to.  An index has one text: a zero, or digits without a zero in front
(`IsIndexText`).

`resolve` finds what a pointer names, if the document has indices, but it takes other texts as
indices, too: signs, blanks, underscores, digits of other scripts and zeros in front are read, and a
negative index counts from the end.  Just the pointers that pass a list by such a text (`Misreads`)
are resolved though they name nothing (`names_iff_resolve`).
-/

set_option autoImplicit false

namespace ClientPlan

/-! ## Decimal texts -/

namespace Text

/-- A digit is what its value is written as. -/
theorem toDigits_digitValue {c : Char} (h : c.isDigit = true) :
    c.toNat - '0'.toNat < 10 ∧ Nat.toDigits 10 (c.toNat - '0'.toNat) = [c] := by
  obtain ⟨hlow, hhigh⟩ := Char.isDigit_iff_toNat.1 h
  have hnine : '9'.toNat = '0'.toNat + 9 := rfl
  have hlt : c.toNat - '0'.toNat < 10 := by omega
  refine ⟨hlt, ?_⟩
  rw [Nat.toDigits_of_lt_base hlt, List.singleton_inj, ← Char.toNat_inj,
    Nat.toNat_digitChar_of_lt_ten hlt, show 48 = '0'.toNat from rfl]
  omega

/-- Digits after those of a positive number write the number that they are read to after it. -/
theorem toDigits_append_of_isDigit {n : Nat} {cs : List Char} (hn : 0 < n)
    (h : ∀ c ∈ cs, c.isDigit = true) :
    Nat.toDigits 10 n ++ cs = Nat.toDigits 10 (Nat.ofDigitChars 10 cs n) := by
  induction cs generalizing n with
  | nil => rw [List.append_nil, Nat.ofDigitChars_nil]
  | cons c r ih =>
    obtain ⟨hc, hr⟩ := List.forall_mem_cons.1 h
    obtain ⟨hlt, hwritten⟩ := toDigits_digitValue hc
    have hpositive : 0 < 10 * n + (c.toNat - '0'.toNat) := by omega
    rw [Nat.ofDigitChars_cons, ← ih hpositive hr,
      ← Nat.toDigits_append_toDigits (by decide) hn hlt, hwritten, List.append_assoc,
      List.singleton_append]

/-- Digits without a zero in front are how the number that they are read to is written. -/
theorem toDigits_ofDigitChars {cs : List Char} (hne : cs ≠ []) (h : ∀ c ∈ cs, c.isDigit = true)
    (hhead : cs.head? ≠ some '0') : Nat.toDigits 10 (Nat.ofDigitChars 10 cs 0) = cs := by
  cases cs with
  | nil => exact absurd rfl hne
  | cons c r =>
    obtain ⟨hc, hr⟩ := List.forall_mem_cons.1 h
    obtain ⟨-, hwritten⟩ := toDigits_digitValue hc
    have hpositive : 0 < c.toNat - '0'.toNat := by
      refine Nat.pos_of_ne_zero fun hzero => hhead ?_
      rw [hzero, Nat.toDigits_zero] at hwritten
      exact congrArg List.head? hwritten.symm
    rw [Nat.ofDigitChars_cons, Nat.mul_zero, Nat.zero_add,
      ← toDigits_append_of_isDigit hpositive hr, hwritten, List.singleton_append]

/-- A positive number is written without a zero in front. -/
theorem head?_toDigits_ne {n : Nat} (hn : 0 < n) : (Nat.toDigits 10 n).head? ≠ some '0' := by
  induction n using Nat.strongRecOn with
  | ind n ih =>
    rw [Nat.toDigits_eq_if (by decide)]
    split
    · intro h
      have hzero := Nat.digitChar_eq_zero.1 (Option.some.inj h)
      omega
    · rw [List.head?_append_of_ne_nil _ Nat.toDigits_ne_nil]
      exact ih (n / 10) (by omega) (by omega)

theorem toList_toString (n : Nat) : (toString n).toList = Nat.toDigits 10 n := by
  rw [Nat.toString_eq_ofList_toDigits, String.toList_ofList]

end Text

namespace Pointer

/-- The text of an index: a zero, or digits without a zero in front. -/
def IsIndexText (s : String) : Prop :=
  s = "0" ∨ s ≠ "" ∧ (∀ c ∈ s.toList, c.isDigit = true) ∧ s.toList.head? ≠ some '0'

instance (s : String) : Decidable (IsIndexText s) :=
  decidable_of_iff
    (s = "0" ∨ s ≠ "" ∧ s.toList.all Char.isDigit = true ∧ s.toList.head? ≠ some '0')
    (by rw [IsIndexText, List.all_eq_true])

/-- The number that digits write. -/
def indexValue (s : String) : Nat := Nat.ofDigitChars 10 s.toList 0

theorem indexValue_toString (n : Nat) : indexValue (toString n) = n := by
  rw [indexValue, Text.toList_toString, Nat.ofDigitChars_ten_toDigits]

/-- The decimal text of a number is the text of an index. -/
theorem isIndexText_toString (n : Nat) : IsIndexText (toString n) := by
  rcases Nat.eq_zero_or_pos n with rfl | hn
  · exact .inl rfl
  · refine .inr ⟨fun h => ?_, fun c hc => ?_, ?_⟩
    · have hlist := congrArg String.toList h
      rw [Text.toList_toString] at hlist
      exact Nat.toDigits_ne_nil hlist
    · rw [Text.toList_toString] at hc
      exact Nat.isDigit_of_mem_toDigits (by decide) (by decide) hc
    · rw [Text.toList_toString]
      exact Text.head?_toDigits_ne hn

/-- The text of an index is the decimal text of its value. -/
theorem toString_indexValue {s : String} (h : IsIndexText s) : toString (indexValue s) = s := by
  rcases h with rfl | ⟨hne, hdigits, hhead⟩
  · rfl
  · refine String.toList_inj.1 ?_
    rw [Text.toList_toString, indexValue]
    exact Text.toDigits_ofDigitChars (fun h => hne (String.toList_inj.1 h)) hdigits hhead

/-! ## Indices -/

/-- A text is the index `n` in a list of some length. -/
def IsIndex (length : Nat) (s : String) (n : Nat) : Prop :=
  IsIndexText s ∧ indexValue s = n ∧ n < length

/-- A text is taken as the index `n` in a list of some length: it is read as that integer, or as a
negative one that counts from the end. -/
def IsTakenAs (length : Nat) (s : String) (n : Nat) : Prop :=
  ∃ i : Int, Text.readInteger s = some i ∧ (i = n ∨ i < 0 ∧ i + length = n)

section

variable {length n m : Nat} {s s' : String} {items : List Value} {v : Value}

theorem isIndex_iff : IsIndex length s n ↔ s = toString n ∧ n < length := by
  constructor
  · rintro ⟨hs, rfl, hlt⟩
    exact ⟨(toString_indexValue hs).symm, hlt⟩
  · rintro ⟨rfl, hlt⟩
    exact ⟨isIndexText_toString n, indexValue_toString n, hlt⟩

/-- Two texts are not the same index. -/
theorem IsIndex.unique (h : IsIndex length s n) (h' : IsIndex length s' n) : s = s' :=
  (isIndex_iff.1 h).1.trans (isIndex_iff.1 h').1.symm

/-- An index of a list whose items are counted is taken as what it is. -/
theorem IsIndex.isTakenAs (h : IsIndex items.length s n)
    (hcounted : Value.isCounted items = true) : IsTakenAs items.length s n := by
  obtain ⟨rfl, hlt⟩ := isIndex_iff.1 h
  have hlength := Text.length_decimal_le (Nat.le_of_lt hlt) (of_decide_eq_true hcounted)
  exact ⟨n, Text.readInteger_toString hlength, .inl rfl⟩

/-- What is an index is taken as that index only. -/
theorem IsIndex.eq_of_isTakenAs (h : IsIndex length s n) (h' : IsTakenAs length s m) : n = m := by
  obtain ⟨i, hi, hm⟩ := h'
  rw [(isIndex_iff.1 h).1] at hi
  have hin := Text.eq_of_readInteger_toString hi
  omega

/-- The text of an index that is taken as an index in a list is that index. -/
theorem isIndex_of_isTakenAs (hs : IsIndexText s) (h : IsTakenAs length s n) (hlt : n < length) :
    IsIndex length s n := by
  obtain ⟨i, hi, hn⟩ := h
  rw [← toString_indexValue hs] at hi
  have hin := Text.eq_of_readInteger_toString hi
  exact ⟨hs, by omega, hlt⟩

theorem itemAt?_eq_some_iff {i : Int} : itemAt? items i = some v ↔
    ∃ n : Nat, (i = n ∨ i < 0 ∧ i + items.length = n) ∧ items[n]? = some v := by
  rw [itemAt?]
  split
  · next hneg =>
    split
    · next hle =>
      constructor
      · exact fun h => ⟨items.length - i.natAbs, .inr ⟨hneg, by omega⟩, h⟩
      · rintro ⟨n, hn, h⟩
        have : items.length - i.natAbs = n := by omega
        rwa [this]
    · next hlong =>
      constructor
      · intro h
        cases h
      · rintro ⟨n, hn, -⟩
        omega
  · next hpos =>
    constructor
    · exact fun h => ⟨i.toNat, .inl (by omega), h⟩
    · rintro ⟨n, hn, h⟩
      have : i.toNat = n := by omega
      rwa [this]

/-- The item that a segment names is the one at the index that it is taken as. -/
theorem itemNamed?_eq_some_iff : itemNamed? items s = some v ↔
    ∃ n, IsTakenAs items.length s n ∧ items[n]? = some v := by
  rw [itemNamed?, Option.bind_eq_some_iff]
  constructor
  · rintro ⟨i, hi, h⟩
    obtain ⟨n, hn, hv⟩ := itemAt?_eq_some_iff.1 h
    exact ⟨n, ⟨i, hi, hn⟩, hv⟩
  · rintro ⟨n, ⟨i, hi, hn⟩, hv⟩
    exact ⟨i, hi, itemAt?_eq_some_iff.2 ⟨n, hn, hv⟩⟩

end

/-! ## Navigation -/

/-- The segments lead down from a value to another: by the keys of mappings, and by the indices of
lists, where `index` says which texts are indices in a list of some length. -/
inductive Names (index : Nat → String → Nat → Prop) : Value → List String → Value → Prop where
  /-- Without segments a value is named itself. -/
  | here (v : Value) : Names index v [] v
  /-- A key of a mapping names its value. -/
  | key {entries : Entries} {key : String} {v w : Value} {rest : List String}
      (hv : lookupText key entries = some v) (h : Names index v rest w) :
      Names index (.map entries) (key :: rest) w
  /-- An index of a list names the item there. -/
  | item {items : List Value} {segment : String} {n : Nat} {v w : Value} {rest : List String}
      (hn : index items.length segment n) (hv : items[n]? = some v) (h : Names index v rest w) :
      Names index (.list items) (segment :: rest) w

/-- On the way down along some segments a list is passed by a text that is not the text of an index
but is taken as one. -/
inductive Misreads : Value → List String → Prop where
  /-- The text is the first segment. -/
  | here {items : List Value} {segment : String} {n : Nat} {v : Value} {rest : List String}
      (hn : IsTakenAs items.length segment n) (hv : items[n]? = some v)
      (htext : ¬ IsIndexText segment) : Misreads (.list items) (segment :: rest)
  /-- The text comes after a key. -/
  | key {entries : Entries} {key : String} {v : Value} {rest : List String}
      (hv : lookupText key entries = some v) (h : Misreads v rest) :
      Misreads (.map entries) (key :: rest)
  /-- The text comes after an index. -/
  | item {items : List Value} {segment : String} {n : Nat} {v : Value} {rest : List String}
      (hn : IsTakenAs items.length segment n) (hv : items[n]? = some v) (h : Misreads v rest) :
      Misreads (.list items) (segment :: rest)

section

variable {root v w : Value} {path : List String} {ref : String} {raw raw' : List String}

/-- What is located is named by texts that are taken as indices. -/
theorem locate?_eq_some_iff : locate? v path = some w ↔ Names IsTakenAs v path w := by
  constructor
  · intro h
    induction path generalizing v with
    | nil =>
      cases h
      exact .here _
    | cons segment rest ih =>
      obtain ⟨u, hu, hw⟩ := Option.bind_eq_some_iff.1 h
      cases v with
      | map entries => exact .key hu (ih hw)
      | list items =>
        obtain ⟨n, hn, hu⟩ := itemNamed?_eq_some_iff.1 hu
        exact .item hn hu (ih hw)
      | _ => cases hu
  · intro h
    induction h with
    | here v => rfl
    | key hv _ ih => exact Option.bind_eq_some_iff.2 ⟨_, hv, ih⟩
    | item hn hv _ ih =>
      exact Option.bind_eq_some_iff.2 ⟨_, itemNamed?_eq_some_iff.2 ⟨_, hn, hv⟩, ih⟩

/-- What is named where all lists are counted is led to. -/
theorem Names.isTakenAs (h : Names IsIndex v path w) (hv : v.hasIndices = true) :
    Names IsTakenAs v path w := by
  induction h with
  | here v => exact .here v
  | key hu _ ih => exact .key hu (ih (Value.hasIndices_of_mem_entries hv (Value.mem_of_lookupText hu)))
  | item hn hu _ ih =>
    exact .item (hn.isTakenAs (Value.isCounted_of_hasIndices hv)) hu
      (ih (Value.hasIndices_of_mem hv (List.mem_of_getElem? hu)))

/-- Segments that name a place pass no list by another text than that of an index. -/
theorem Names.not_misreads (h : Names IsIndex v path w) : ¬ Misreads v path := by
  intro hm
  induction h with
  | here v => cases hm
  | key hv _ ih =>
    cases hm with
    | key hv' hm =>
      cases hv.symm.trans hv'
      exact ih hm
  | item hn hv _ ih =>
    cases hm with
    | here _ _ htext => exact htext hn.1
    | item hn' hv' hm =>
      cases hn.eq_of_isTakenAs hn'
      cases hv.symm.trans hv'
      exact ih hm

/-- The segments name a place just if they lead there and no list is passed by another text than that
of an index. -/
theorem names_isIndex_iff (hv : v.hasIndices = true) :
    Names IsIndex v path w ↔ Names IsTakenAs v path w ∧ ¬ Misreads v path := by
  refine ⟨fun h => ⟨h.isTakenAs hv, h.not_misreads⟩, ?_⟩
  rintro ⟨h, hm⟩
  clear hv
  induction h with
  | here v => exact .here v
  | key hv _ ih => exact .key hv (ih fun h => hm (.key hv h))
  | item hn hv _ ih =>
    have htext := not_not.1 fun h => hm (.here hn hv h)
    obtain ⟨hlt, -⟩ := List.getElem?_eq_some_iff.1 hv
    have hindex := isIndex_of_isTakenAs htext hn hlt
    exact .item hindex hv (ih fun h => hm (.item hn hv h))

/-! ## Spelling -/

/-- A pointer is spelled by segments: a number sign, and each segment after a slash. -/
def Spells (ref : String) (raw : List String) : Prop :=
  (∀ segment ∈ raw, '/' ∉ segment.toList) ∧ ref = "/".intercalate ("#" :: raw)

theorem toList_of_spells (h : Spells ref raw) :
    ref.toList = ['/'].intercalate (['#'] :: raw.map String.toList) := by
  rw [h.2, String.toList_intercalate]
  rfl

/-- A pointer is spelled in one way only. -/
theorem Spells.unique (h : Spells ref raw) (h' : Spells ref raw') : raw = raw' := by
  have hsplit : ∀ {raw : List String}, Spells ref raw →
      ref.toList.splitOn '/' = ['#'] :: raw.map String.toList := by
    intro raw h
    rw [toList_of_spells h]
    refine List.splitOn_intercalate '/' (List.forall_mem_cons.2 ⟨by decide, ?_⟩)
      (List.cons_ne_nil _ _)
    exact List.forall_mem_map.2 h.1
  have hmap := (List.cons.inj ((hsplit h).symm.trans (hsplit h'))).2
  exact List.map_injective_iff.2 (fun _ _ => String.toList_inj.1) hmap

/-- The segments that are walked along are those that spell the pointer, read without escapes. -/
theorem segments?_eq_some_iff_spells :
    segments? ref = some path ↔ ∃ raw, Spells ref raw ∧ path = raw.map unescape := by
  rw [segments?_eq_some_iff]
  constructor
  · rintro (⟨rfl, rfl⟩ | ⟨r, hr, rfl⟩)
    · exact ⟨[], ⟨List.forall_mem_nil _, rfl⟩, rfl⟩
    · refine ⟨(r.splitOn '/').map String.ofList, ⟨List.forall_mem_map.2 fun part hpart => ?_, ?_⟩, ?_⟩
      · rw [String.toList_ofList]
        exact not_mem_of_mem_splitOn hpart
      · have hparts : ((r.splitOn '/').map String.ofList).map String.toList = r.splitOn '/' := by
          rw [List.map_map]
          exact List.map_id'' (fun _ => String.toList_ofList) _
        obtain ⟨first, rest, hsplit⟩ := List.exists_cons_of_ne_nil (List.splitOn_ne_nil '/' r)
        refine String.toList_inj.1 ?_
        rw [String.toList_intercalate, List.map_cons, hparts, hr,
          show "/".toList = ['/'] from rfl, show "#".toList = ['#'] from rfl, hsplit,
          List.intercalate_cons_cons, ← hsplit, List.intercalate_splitOn]
        rfl
      · rw [List.map_map]
        refine List.map_congr_left fun part _ => ?_
        rw [Function.comp_apply, unescape, String.toList_ofList]
  · rintro ⟨raw, h, rfl⟩
    cases raw with
    | nil => exact .inl ⟨h.2, rfl⟩
    | cons first rest =>
      refine .inr ⟨['/'].intercalate ((first :: rest).map String.toList), ?_, ?_⟩
      · rw [toList_of_spells h, List.map_cons, List.intercalate_cons_cons]
        rfl
      · rw [List.splitOn_intercalate '/' (List.forall_mem_map.2 h.1) (List.cons_ne_nil _ _),
          List.map_map]
        rfl

/-- A pointer is resolved to what its segments lead to if texts are taken as indices. -/
theorem resolve_eq_ok_iff : resolve root ref = .ok v ↔
    ∃ raw, Spells ref raw ∧ Names IsTakenAs root (raw.map unescape) v := by
  rw [resolve]
  cases hsegments : segments? ref with
  | none =>
    constructor
    · intro h
      cases h
    · rintro ⟨raw, hraw, -⟩
      cases hsegments.symm.trans (segments?_eq_some_iff_spells.2 ⟨raw, hraw, rfl⟩)
  | some path =>
    obtain ⟨raw, hraw, rfl⟩ := segments?_eq_some_iff_spells.1 hsegments
    show walk ref root _ = _ ↔ _
    rw [walk_eq_ok_iff, locate?_eq_some_iff]
    constructor
    · exact fun h => ⟨raw, hraw, h⟩
    · rintro ⟨raw', hraw', h⟩
      rwa [hraw.unique hraw']

/-- In a document with indices a pointer names a value just if it is resolved to it and passes no list
by a text that is only taken as an index; so what is named is resolved, and all else that is resolved
passes a list by such a text.  Two segments are never the same index of a list, though they may be
taken as the same. -/
theorem names_iff_resolve (root v : Value) (ref : String) :
    (root.hasIndices = true →
      ((∃ raw, Spells ref raw ∧ Names IsIndex root (raw.map unescape) v) ↔
        resolve root ref = .ok v ∧
          ¬ ∃ raw, Spells ref raw ∧ Misreads root (raw.map unescape))) ∧
    (resolve root ref = .ok v ↔
      ∃ raw, Spells ref raw ∧ Names IsTakenAs root (raw.map unescape) v) ∧
    ∀ (length n : Nat) (s s' : String), IsIndex length s n → IsIndex length s' n → s = s' := by
  refine ⟨fun hindices => ?_, resolve_eq_ok_iff, fun length n s s' => IsIndex.unique⟩
  rw [resolve_eq_ok_iff]
  constructor
  · rintro ⟨raw, hraw, h⟩
    refine ⟨⟨raw, hraw, h.isTakenAs hindices⟩, fun ⟨raw', hraw', hm⟩ => h.not_misreads ?_⟩
    rwa [hraw.unique hraw']
  · rintro ⟨⟨raw, hraw, h⟩, hmisreads⟩
    exact ⟨raw, hraw, (names_isIndex_iff hindices).2 ⟨h, fun hm => hmisreads ⟨raw, hraw, hm⟩⟩⟩

/-- A document with a list of two texts. -/
def pairDocument : Value := .ofFields [("a", .list [.str "x", .str "y"])]

/-- The second item is named by its index. -/
theorem names_pair : pairDocument.hasIndices = true ∧
    Names IsIndex pairDocument ["a", "1"] (.str "y") ∧
    resolve pairDocument "#/a/1" = .ok (.str "y") := by
  have hindices : pairDocument.hasIndices = true := by decide +kernel
  have hnames : Names IsIndex pairDocument ["a", "1"] (.str "y") :=
    .key rfl (.item (isIndex_iff.2 ⟨rfl, Nat.one_lt_two⟩) rfl (.here _))
  obtain ⟨hresolve, -⟩ := ((names_iff_resolve pairDocument (.str "y") "#/a/1").1 hindices).1
    ⟨["a", "1"], ⟨by decide, rfl⟩, hnames⟩
  exact ⟨hindices, hnames, hresolve⟩

/-- A negative index is resolved, though it names nothing, to what a pointer with another segment
names. -/
theorem resolve_not_named : resolve pairDocument "#/a/-1" = .ok (.str "y") ∧
    resolve pairDocument "#/a/1" = .ok (.str "y") ∧
    ∀ v, ¬ ∃ raw, Spells "#/a/-1" raw ∧ Names IsIndex pairDocument (raw.map unescape) v := by
  refine ⟨rfl, rfl, ?_⟩
  rintro v ⟨raw, hraw, h⟩
  have hspelled : Spells "#/a/-1" ["a", "-1"] := ⟨by decide, rfl⟩
  cases hraw.unique hspelled
  have hread : Text.readInteger "-1" = some (-1) := by decide +kernel
  have htaken : IsTakenAs 2 "-1" 1 := ⟨-1, hread, .inr ⟨by decide, rfl⟩⟩
  have hmisreads : Misreads (.list [.str "x", .str "y"]) ["-1"] := .here htaken rfl (by decide)
  exact h.not_misreads (.key rfl hmisreads)

end

end Pointer

end ClientPlan
