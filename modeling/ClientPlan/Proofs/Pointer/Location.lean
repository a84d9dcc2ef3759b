import ClientPlan.Pointer.Resolve
import ClientPlan.Proofs.Document.Indices
import ClientPlan.Proofs.Document.TextKeys
import ClientPlan.Proofs.Naming.Token
import ClientPlan.Proofs.Outcome
import ClientPlan.Schema.Outline

/-!
# Where pointers lead

`locate?` goes down from the root of a document along segments, and `Position.At` says that it leads
to the node of a position along the segments of its pointer.  So the pointer of a position
determines the position (`At.eq_of_pointer_eq`).  What a reference names, and each part of a
position, is located again.

Resolving a reference succeeds exactly where `locate?` finds something, with what it finds
(`walk_eq_ok_iff`), so a located position is what its pointer resolves to (`At.resolve`).
-/

set_option autoImplicit false

namespace ClientPlan

/-! ## Parts of texts -/

/-- What a text is split at is in none of its parts. -/
theorem not_mem_of_mem_splitOn {a : Char} {cs part : List Char} (h : part ∈ cs.splitOn a) :
    a ∉ part := by
  induction cs generalizing part with
  | nil =>
    rw [List.splitOn_nil, List.mem_singleton] at h
    rw [h]
    exact List.not_mem_nil
  | cons c cs ih =>
    rw [List.splitOn_cons_eq_if_modifyHead] at h
    split at h
    · rcases List.mem_cons.1 h with rfl | h
      · exact List.not_mem_nil
      · exact ih h
    · next hc =>
      obtain ⟨first, rest, hsplit⟩ := List.exists_cons_of_ne_nil (List.splitOn_ne_nil a cs)
      rw [hsplit, List.modifyHead_cons] at h
      rw [hsplit, List.forall_mem_cons] at ih
      rcases List.mem_cons.1 h with rfl | h
      · intro hmem
        rcases List.mem_cons.1 hmem with rfl | hmem
        · exact hc (beq_self_eq_true _)
        · exact ih.1 hmem
      · exact ih.2 part h

/-- What was joined is split again, and so are the parts. -/
theorem splitOn_intercalate {a : Char} {parts : List (List Char)} (h : parts ≠ []) :
    ([a].intercalate parts).splitOn a = parts.flatMap fun part => part.splitOn a := by
  induction parts with
  | nil => exact absurd rfl h
  | cons part r ih =>
    cases r with
    | nil => rw [List.intercalate_singleton, List.flatMap_singleton]
    | cons part' r =>
      rw [List.intercalate_cons_cons, List.flatMap_cons, ← ih (List.cons_ne_nil part' r),
        List.append_assoc, List.singleton_append, List.splitOn_append_cons_self]

theorem map_splitOn_intercalate {a : Char} {sep : String} (hsep : sep.toList = [a])
    {l : List String} (h : l ≠ []) : ((sep.intercalate l).toList.splitOn a).map String.ofList =
      l.flatMap fun s => (s.toList.splitOn a).map String.ofList := by
  rw [String.toList_intercalate, hsep, splitOn_intercalate (mt List.map_eq_nil_iff.1 h),
    List.flatMap_map, List.map_flatMap]

/-! ## Plain indices -/

namespace Text

theorem digitValue?_of_isDigit {c : Char} (h : c.isDigit = true) :
    digitValue? c = some (c.toNat - '0'.toNat) := by
  simp only [Char.isDigit, Bool.and_eq_true, decide_eq_true_eq, ge_iff_le,
    UInt32.le_iff_toNat_le] at h
  have hc : c.val.toNat = c.toNat := rfl
  simp at h
  rw [digitValue?]
  simp
  omega

/-- Plain digits are read as the number that they write. -/
theorem readDigits_of_isDigit {acc : Nat} {cs : List Char} (h : ∀ c ∈ cs, c.isDigit = true) :
    readDigits digitValue? 10 acc cs = some (Nat.ofDigitChars 10 cs acc) := by
  induction cs generalizing acc with
  | nil => rfl
  | cons c r ih =>
    have hc : c.isDigit = true := h c List.mem_cons_self
    have hne : c ≠ '_' := by
      rintro rfl
      cases hc
    have hr : readDigits digitValue? 10 acc (c :: r) =
        (digitValue? c).bind fun d => readDigits digitValue? 10 (acc * 10 + d) r := by
      cases r with
      | nil => rw [readDigits]; simp
      | cons d r => rw [readDigits]; simp [hne]
    rw [hr, digitValue?_of_isDigit hc, Option.bind_some,
      ih fun d hd => h d (List.mem_cons_of_mem c hd), Nat.ofDigitChars_cons, Nat.mul_comm]

theorem trimNumber_of_isDigit {cs : List Char} (h : ∀ c ∈ cs, c.isDigit = true) :
    trimNumber cs = cs := by
  have hblank : ∀ c : Char, c.isDigit = true → isNumberBlank c = false := fun c hc =>
    Naming.forall_isAlphanum (P := fun c => c.isDigit = true → isNumberBlank c = false) (by decide)
      (by simp [Char.isAlphanum, hc]) hc
  have hdrop : ∀ l : List Char, (∀ c ∈ l, c.isDigit = true) → l.dropWhile isNumberBlank = l := by
    intro l hl
    cases l with
    | nil => rfl
    | cons c r => rw [List.dropWhile_cons_of_neg (by simp [hblank c (hl c List.mem_cons_self)])]
  rw [trimNumber, hdrop cs h, hdrop cs.reverse fun c hc => h c (List.mem_reverse.1 hc),
    List.reverse_reverse]

theorem readSigned_toDigits (n : Nat) :
    readSigned digitValue? 10 (Nat.toDigits 10 n) = some (n : Int) := by
  have hdigits : ∀ c ∈ Nat.toDigits 10 n, c.isDigit = true := fun c hc =>
    Nat.isDigit_of_mem_toDigits (by decide) (by decide) hc
  have hread := Nat.ofDigitChars_ten_toDigits (n := n)
  rw [readSigned, trimNumber_of_isDigit hdigits]
  cases hcs : Nat.toDigits 10 n with
  | nil => exact absurd hcs Nat.toDigits_ne_nil
  | cons c r =>
    rw [hcs] at hdigits hread
    have hc : c.isDigit = true := hdigits c List.mem_cons_self
    have hnatural : readNatural digitValue? 10 (c :: r) = some n := by
      rw [Nat.ofDigitChars_cons, Nat.mul_zero, Nat.zero_add] at hread
      rw [readNatural, digitValue?_of_isDigit hc, Option.bind_some,
        readDigits_of_isDigit fun d hd => hdigits d (List.mem_cons_of_mem c hd), hread]
    split
    · next r' heq =>
      cases heq
      cases hc
    · next r' heq =>
      cases heq
      cases hc
    · rw [hnatural]
      rfl

theorem eq_of_toString_eq {i j : Nat} (h : toString i = toString j) : i = j := by
  have hdigits : Nat.toDigits 10 i = Nat.toDigits 10 j := by
    have hlist := congrArg String.toList h
    rwa [Nat.toString_eq_ofList_toDigits, Nat.toString_eq_ofList_toDigits, String.toList_ofList,
      String.toList_ofList] at hlist
  rw [← Nat.ofDigitChars_ten_toDigits (n := i), hdigits, Nat.ofDigitChars_ten_toDigits]

/-- A plain index is read as itself, if it is read. -/
theorem eq_of_readInteger_toString {n : Nat} {i : Int} (h : readInteger (toString n) = some i) :
    i = n := by
  rw [readInteger, Nat.toString_eq_ofList_toDigits, String.toList_ofList] at h
  split at h
  · cases h
  · exact Option.some.inj (h.symm.trans (readSigned_toDigits n))

/-- A plain index that is not too long is read as itself. -/
theorem readInteger_toString {n : Nat} (h : (decimal n).length ≤ maxDigits) :
    readInteger (toString n) = some (n : Int) := by
  have hcount : ¬ maxDigits < (Nat.toDigits 10 n).countP fun c => (digitValue? c).isSome :=
    Nat.not_lt.2 (Nat.le_trans List.countP_le_length h)
  rw [readInteger, Nat.toString_eq_ofList_toDigits, String.toList_ofList, if_neg hcount]
  exact readSigned_toDigits n

end Text

/-! ## Going down -/

namespace Pointer

/-- The part of a value that a segment leads to. -/
def descend? (v : Value) (segment : String) : Option Value :=
  match v with
  | .map entries => lookupText segment entries
  | .list items => itemNamed? items segment
  | _ => none

/-- The place inside a value that a list of segments leads to. -/
def locate? : Value → List String → Option Value
  | v, [] => some v
  | v, segment :: rest => (descend? v segment).bind fun w => locate? w rest

/-- The items of a list that are counted are named by their indices. -/
theorem itemNamed?_toString {items : List Value} {i : Nat} {v : Value}
    (hcounted : Value.isCounted items = true) (h : items[i]? = some v) :
    itemNamed? items (toString i) = some v := by
  obtain ⟨hlt, -⟩ := List.getElem?_eq_some_iff.1 h
  have hlength := Text.length_decimal_le (Nat.le_of_lt hlt) (of_decide_eq_true hcounted)
  rw [itemNamed?, Text.readInteger_toString hlength, Option.bind_some, itemAt?, if_neg (by omega),
    Int.toNat_natCast, h]

/-- A step succeeds exactly where there is something to go down to. -/
theorem step_eq_ok_iff {ref segment : String} {v w : Value} :
    step ref v segment = .ok w ↔ descend? v segment = some w := by
  cases v with
  | map entries =>
    rw [step, descend?]
    cases lookupText segment entries <;> simp
  | list items =>
    rw [step, descend?]
    cases itemNamed? items segment <;> simp
  | _ => simp [step, descend?]

/-- Resolving a reference goes down to what is located. -/
theorem walk_eq_ok_iff {ref : String} {path : List String} {v w : Value} :
    walk ref v path = .ok w ↔ locate? v path = some w := by
  induction path generalizing v with
  | nil => simp [walk, locate?]
  | cons segment rest ih =>
    rw [walk, locate?, bind_eq_ok, Option.bind_eq_some_iff]
    simp only [step_eq_ok_iff, ih]

theorem locate?_append {path more : List String} {v : Value} :
    locate? v (path ++ more) = (locate? v path).bind fun w => locate? w more := by
  induction path generalizing v with
  | nil => rfl
  | cons segment rest ih =>
    rw [List.cons_append, locate?, locate?, Option.bind_assoc]
    exact congrArg _ (funext fun w => ih)

theorem everyMap_descend? {test : Entries → Bool} {v w : Value} {segment : String}
    (h : v.everyMap test = true) (hw : descend? v segment = some w) : w.everyMap test = true := by
  cases v with
  | map entries =>
    rw [descend?] at hw
    exact Value.everyMap_of_mem_entries h (Value.mem_of_lookupText hw)
  | list items =>
    rw [descend?] at hw
    exact Value.everyMap_of_mem h (mem_of_itemNamed? hw)
  | _ => cases hw

/-- Mappings inside what is located are mappings inside the document. -/
theorem everyMap_locate? {test : Entries → Bool} {path : List String} {v w : Value}
    (h : v.everyMap test = true) (hw : locate? v path = some w) : w.everyMap test = true := by
  induction path generalizing v with
  | nil =>
    cases hw
    exact h
  | cons segment rest ih =>
    obtain ⟨u, hu, hw⟩ := Option.bind_eq_some_iff.1 hw
    exact ih (everyMap_descend? h hu) hw

/-- Lists inside what is located are lists inside the document. -/
theorem hasIndices_locate? {path : List String} {v w : Value} (h : v.hasIndices = true)
    (hw : locate? v path = some w) : w.hasIndices = true := by
  induction path generalizing v with
  | nil =>
    cases hw
    exact h
  | cons segment rest ih =>
    obtain ⟨u, hu, hw⟩ := Option.bind_eq_some_iff.1 hw
    refine ih ?_ hw
    cases v with
    | map entries => exact Value.hasIndices_of_mem_entries h (Value.mem_of_lookupText hu)
    | list items => exact Value.hasIndices_of_mem h (mem_of_itemNamed? hu)
    | _ => cases hu

/-! ## Segments of pointers -/

theorem slash_not_mem_escapeChars (cs : List Char) : '/' ∉ escapeChars cs := by
  intro h
  obtain ⟨c, -, hc⟩ := List.mem_flatMap.1 h
  unfold escapeChar at hc
  split at hc
  · revert hc
    decide
  · split at hc
    · revert hc
      decide
    · next hne =>
      rw [List.mem_singleton] at hc
      subst hc
      exact hne rfl

theorem intercalate_slash (t : List Char) (l : List (List Char)) :
    ['/'].intercalate (t :: l) = t ++ l.flatMap fun u => '/' :: u := by
  induction l generalizing t with
  | nil => simp
  | cons u r ih => rw [List.intercalate_cons_cons, ih, List.flatMap_cons]; simp

/-- The text of some segments, each after a slash. -/
def trail (segments : List Segment) : List Char :=
  segments.flatMap fun s => '/' :: escapeChars s.text.toList

theorem toList_join {base : String} (h : base ≠ "") (segments : List Segment) :
    (join base segments).toList = base.toList ++ trail segments := by
  have hbase : (base == "") = false := by simpa using h
  rw [join, hbase, String.toList_intercalate, if_neg Bool.false_ne_true, List.map_cons,
    show "/".toList = ['/'] from rfl, intercalate_slash, List.map_map, List.flatMap_map]
  refine congrArg _ (congrArg (fun f => segments.flatMap f) (funext fun s => ?_))
  rw [Function.comp_apply, escape, String.toList_ofList]

theorem splitOn_append_trail (r : List Char) (segments : List Segment) :
    (r ++ trail segments).splitOn '/' =
      r.splitOn '/' ++ segments.map fun s => escapeChars s.text.toList := by
  induction segments generalizing r with
  | nil => simp [trail]
  | cons s rest ih =>
    have htrail : trail (s :: rest) = '/' :: (escapeChars s.text.toList ++ trail rest) := rfl
    rw [htrail, List.splitOn_append_cons_self, ih,
      List.splitOn_eq_singleton (slash_not_mem_escapeChars _)]
    rfl

theorem segments?_eq_some_iff {ref : String} {path : List String} :
    segments? ref = some path ↔ ref = "#" ∧ path = [] ∨ ∃ r, ref.toList = '#' :: '/' :: r ∧
      path = (r.splitOn '/').map fun segment => String.ofList (unescapeChars segment) := by
  unfold segments?
  split
  · next h =>
    have h : ref = "#" := by simpa using h
    subst h
    constructor
    · intro hp
      exact .inl ⟨rfl, (Option.some.inj hp).symm⟩
    · rintro (⟨-, rfl⟩ | ⟨r, hr, -⟩)
      · rfl
      · cases hr
  · next h =>
    have h : ref ≠ "#" := by simpa using h
    split
    · next r hr =>
      constructor
      · intro hp
        exact .inr ⟨r, hr, (Option.some.inj hp).symm⟩
      · rintro (⟨he, -⟩ | ⟨r', hr', rfl⟩)
        · exact absurd he h
        · rw [hr] at hr'
          cases hr'
          rfl
    · next hr =>
      constructor
      · intro hp
        cases hp
      · rintro (⟨he, -⟩ | ⟨r', hr', -⟩)
        · exact absurd he h
        · exact (hr r' hr').elim

theorem map_unescape_escapeChars (segments : List Segment) :
    (segments.map fun s => escapeChars s.text.toList).map
      (fun segment => String.ofList (unescapeChars segment)) = segments.map Segment.text := by
  rw [List.map_map]
  refine List.map_congr_left fun s _ => ?_
  rw [Function.comp_apply, unescapeChars_escapeChars, String.ofList_toList]

/-- The segments of a pointer that goes on from another one. -/
theorem segments?_join {base : String} {path : List String} (h : segments? base = some path)
    (segments : List Segment) :
    segments? (join base segments) = some (path ++ segments.map Segment.text) := by
  have hbase : base ≠ "" := by
    rintro rfl
    cases h
  have hlist := toList_join hbase segments
  rcases segments?_eq_some_iff.1 h with ⟨rfl, rfl⟩ | ⟨r, hr, rfl⟩
  · cases segments with
    | nil => rfl
    | cons s rest =>
      refine segments?_eq_some_iff.2 (.inr ⟨escapeChars s.text.toList ++ trail rest, hlist, ?_⟩)
      rw [splitOn_append_trail, List.splitOn_eq_singleton (slash_not_mem_escapeChars _),
        List.map_append, map_unescape_escapeChars, List.map_singleton, unescapeChars_escapeChars,
        String.ofList_toList]
      rfl
  · rw [hr] at hlist
    refine segments?_eq_some_iff.2 (.inr ⟨r ++ trail segments, hlist, ?_⟩)
    rw [splitOn_append_trail, List.map_append, map_unescape_escapeChars]

/-! ## Going on twice -/

section

variable {base : String} {steps steps' : List Segment}

theorem join_ne_empty : join base steps ≠ "" := by
  intro h
  have hlist := congrArg String.toList h
  rw [join, String.toList_intercalate, List.map_cons, show "/".toList = ['/'] from rfl,
    intercalate_slash] at hlist
  obtain ⟨hhead, -⟩ := List.append_eq_nil_iff.1 hlist
  split at hhead
  · cases hhead
  · next hne => exact hne (by simpa using hhead)

theorem join_empty : join "" steps = join "#" steps := rfl

theorem join_nil (h : base ≠ "") : join base [] = base := by
  refine String.toList_inj.1 ?_
  rw [toList_join h, trail, List.flatMap_nil, List.append_nil]

/-- Going on twice is going on once. -/
theorem join_join (h : base ≠ "") : join (join base steps) steps' = join base (steps ++ steps') := by
  refine String.toList_inj.1 ?_
  rw [toList_join join_ne_empty, toList_join h, toList_join h, trail, trail, trail,
    List.flatMap_append, List.append_assoc]

end

end Pointer

/-! ## Located positions -/

/-- The segments of the pointer to a component. -/
def componentPath (key : String) : List String := ["components", "schemas", key]

/-- The segments of the pointer of a position lead to its node. -/
structure Position.At (document : Value) (p : Position) (path : List String) : Prop where
  /-- The segments are those of the pointer. -/
  segments : Pointer.segments? p.pointer = some path
  /-- They lead to the node. -/
  located : Pointer.locate? document path = some p.node

/-- A position is located if its node is a mapping. -/
def Position.Located (document : Value) (p : Position) : Prop :=
  p.node.isMap = true → ∃ path, p.At document path

namespace Position.At

variable {document : Value} {p q m : Position} {path path' : List String}

/-- A pointer determines what it leads to. -/
theorem eq_of_pointer_eq (h : p.At document path) (h' : q.At document path')
    (he : p.pointer = q.pointer) : p = q := by
  have hpath : path = path' := by
    have := h.segments
    rw [he, h'.segments] at this
    exact (Option.some.inj this).symm
  have hnode : p.node = q.node := by
    have := h.located
    rw [hpath, h'.located] at this
    exact (Option.some.inj this).symm
  cases p
  cases q
  dsimp only at he hnode
  rw [he, hnode]

theorem pointer_ne_empty (h : p.At document path) : p.pointer ≠ "" := by
  intro hempty
  have hsegments := h.segments
  rw [hempty] at hsegments
  cases hsegments

theorem hasTextKeys (h : p.At document path) (hd : document.hasTextKeys = true) :
    p.node.hasTextKeys = true :=
  Pointer.everyMap_locate? hd h.located

theorem hasIndices (h : p.At document path) (hd : document.hasIndices = true) :
    p.node.hasIndices = true :=
  Pointer.hasIndices_locate? hd h.located

/-- What a reference names is located. -/
theorem of_resolve {ref : String} {v : Value} (h : Pointer.resolve document ref = .ok v) :
    ∃ path, Position.At document ⟨v, ref⟩ path := by
  rw [Pointer.resolve] at h
  split at h
  · cases h
  · next path hpath => exact ⟨path, hpath, Pointer.walk_eq_ok_iff.1 h⟩

theorem isLocated (h : p.At document path) : p.Located document := fun _ => ⟨path, h⟩

/-- The pointer of a located position resolves to its node. -/
theorem resolve (h : p.At document path) : Pointer.resolve document p.pointer = .ok p.node := by
  rw [Pointer.resolve, h.segments]
  exact Pointer.walk_eq_ok_iff.2 h.located

/-- What segments lead to from a located position is located. -/
theorem join (h : p.At document path) (segments : List Pointer.Segment) {v : Value}
    (hv : Pointer.locate? p.node (segments.map Pointer.Segment.text) = some v) :
    Position.At document ⟨v, Pointer.join p.pointer segments⟩
      (path ++ segments.map Pointer.Segment.text) where
  segments := Pointer.segments?_join h.segments segments
  located := by rw [Pointer.locate?_append, h.located, Option.bind_some, hv]

theorem locate?_singleton {v : Value} {key : String} :
    Pointer.locate? v [key] = Pointer.descend? v key := by
  rw [Pointer.locate?]
  cases Pointer.descend? v key <;> rfl

theorem locate?_pair {v u w : Value} {k k' : String} (hu : Pointer.descend? v k = some u)
    (hw : Pointer.descend? u k' = some w) : Pointer.locate? v [k, k'] = some w := by
  rw [Pointer.locate?, hu, Option.bind_some, locate?_singleton, hw]

theorem descend?_of_get? {v w : Value} {key : String} (h : v.get? key = some w) :
    Pointer.descend? v key = some w := by
  cases v with
  | map entries => exact h
  | _ => cases h

/-- The value at a text key of a located position is located. -/
theorem field (h : p.At document path) {key : String} {v : Value} (hv : p.node.get? key = some v) :
    Position.At document ⟨v, Pointer.field p.pointer key⟩ (path ++ [key]) :=
  h.join [key] (locate?_singleton.trans (descend?_of_get? hv))

/-- The value where two keys lead to from a located position is located. -/
theorem join_pair (h : p.At document path) {k k' : String} {v w : Value}
    (hv : p.node.get? k = some v) (hw : v.get? k' = some w) :
    Position.At document ⟨w, Pointer.join p.pointer [k, k']⟩ (path ++ [k, k']) :=
  h.join [k, k'] (locate?_pair (descend?_of_get? hv) (descend?_of_get? hw))

/-- The end of a chain of references from a located position is located. -/
theorem follow (h : p.At document path) {node : Value} {pointer : String}
    (hf : Pointer.follow document p.node p.pointer = .ok (node, pointer)) :
    ∃ path', Position.At document ⟨node, pointer⟩ path' := by
  have hchain : ∀ seen v start, (∃ path, Position.At document ⟨v, start⟩ path) →
      Pointer.followFrom document seen v start = .ok (node, pointer) →
        ∃ path', Position.At document ⟨node, pointer⟩ path' := by
    intro seen v start hv hfrom
    fun_induction Pointer.followFrom document seen v start with
    | case1 seen v start hr =>
      cases hfrom
      exact hv
    | case2 seen v start r hr e he => cases hfrom
    | case3 seen v start r hr ref href hseen => cases hfrom
    | case4 seen v start r hr ref href hseen e he => cases hfrom
    | case5 seen v start r hr ref href hseen target htarget ih =>
      exact ih (of_resolve htarget) hfrom
  exact hchain [] p.node p.pointer ⟨path, h⟩ hf

end Position.At

end ClientPlan
