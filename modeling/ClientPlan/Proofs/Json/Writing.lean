import ClientPlan.Proofs.Json.Quoting
import ClientPlan.Proofs.Load.Json
import Mathlib.Data.List.Induction

/-!
# Written values are read back

A value without numbers whose mappings have distinct text keys is written in such a way that the
reader gives it back, whatever follows it, if there is room for its lists and mappings
(`readBack_of_isVerbal`).  So the text of such a value is read as that value (`read_write_append`).
-/

set_option autoImplicit false

namespace ClientPlan

namespace Value

mutual

/-- Whether a value is made of texts, truth values and absent values alone, in lists and in mappings
whose keys are distinct texts. -/
def isVerbal : Value → Bool
  | null | bool _ | str _ => true
  | list items => areVerbal items
  | map entries => textKeyed entries && haveVerbal entries
  | _ => false

/-- Whether all values of a list are verbal. -/
def areVerbal : List Value → Bool
  | [] => true
  | v :: r => v.isVerbal && areVerbal r

/-- Whether the values of all entries are verbal. -/
def haveVerbal : Entries → Bool
  | [] => true
  | (_, v) :: r => v.isVerbal && haveVerbal r

end

mutual

/-- How deep lists and mappings stand inside one another. -/
def nesting : Value → Nat
  | list items => nestingOfItems items + 1
  | map entries => nestingOfEntries entries + 1
  | _ => 0

/-- The greatest depth of a list of values. -/
def nestingOfItems : List Value → Nat
  | [] => 0
  | v :: r => max v.nesting (nestingOfItems r)

/-- The greatest depth of the values of entries. -/
def nestingOfEntries : Entries → Nat
  | [] => 0
  | (_, v) :: r => max v.nesting (nestingOfEntries r)

end

theorem nestingOfItems_le_iff {items : List Value} {n : Nat} :
    nestingOfItems items ≤ n ↔ ∀ v ∈ items, v.nesting ≤ n := by
  induction items with
  | nil => simp [nestingOfItems]
  | cons v r ih => rw [nestingOfItems, Nat.max_le, ih, List.forall_mem_cons]

theorem nestingOfEntries_le_iff {entries : Entries} {n : Nat} :
    nestingOfEntries entries ≤ n ↔ ∀ e ∈ entries, e.2.nesting ≤ n := by
  induction entries with
  | nil => simp [nestingOfEntries]
  | cons e r ih => rw [nestingOfEntries, Nat.max_le, ih, List.forall_mem_cons]

theorem areVerbal_iff {items : List Value} :
    areVerbal items = true ↔ ∀ v ∈ items, v.isVerbal = true := by
  induction items with
  | nil => simp [areVerbal]
  | cons v r ih => rw [areVerbal, Bool.and_eq_true, ih, List.forall_mem_cons]

theorem haveVerbal_iff {entries : Entries} :
    haveVerbal entries = true ↔ ∀ e ∈ entries, e.2.isVerbal = true := by
  induction entries with
  | nil => simp [haveVerbal]
  | cons e r ih => rw [haveVerbal, Bool.and_eq_true, ih, List.forall_mem_cons]

/-- Entries under distinct texts are the entries of the mapping that is made from them. -/
theorem ofEntries_of_textKeyed {entries : Entries} (h : textKeyed entries = true) :
    ofEntries entries = .map entries := by
  have hset : ∀ {key : String} {v : Value} {entries : Entries},
      (∀ e ∈ entries, e.1 ≠ .str key) →
        setEntry (.str key) v entries = entries ++ [(.str key, v)] := by
    intro key v entries hnew
    induction entries with
    | nil => rfl
    | cons e r ih =>
      obtain ⟨he, hr⟩ := List.forall_mem_cons.1 hnew
      rw [setEntry, if_neg fun hagrees => he (agrees_str.1 hagrees), ih hr]
      rfl
  refine congrArg map ?_
  induction entries using List.reverseRecOn with
  | nil => rfl
  | append_singleton init e ih =>
    obtain ⟨k, v⟩ := e
    rw [textKeyed_iff, List.map_append, List.filterMap_append, List.nodup_append,
      List.forall_mem_append] at h
    obtain ⟨⟨hinit, hk⟩, hnodup, -, hdisjoint⟩ := h
    rw [List.foldl_append, ih (textKeyed_iff.2 ⟨hinit, hnodup⟩)]
    cases k with
    | str key =>
      refine hset fun e he hkey => ?_
      refine hdisjoint key ?_ key (List.mem_singleton_self key) rfl
      exact List.mem_filterMap.2 ⟨e.1, List.mem_map_of_mem he, by rw [hkey]; rfl⟩
    | _ => cases hk _ (List.mem_singleton_self _)

end Value

namespace Json

variable {charset : Charset} {depth room : Nat} {s t r rest : List Char} {v : Value}

/-! ## Blanks -/

theorem skipSpace_cons {c : Char} (h : isSpace c = false) : skipSpace (c :: s) = c :: s :=
  List.dropWhile_cons_of_neg (by rw [h]; decide)

theorem skipSpace_newline : skipSpace (newline depth ++ s) = skipSpace s := by
  have hblanks : ∀ n, skipSpace (List.replicate n ' ' ++ s) = skipSpace s := by
    intro n
    induction n with
    | zero => rfl
    | succ n ih => exact ih
  exact hblanks (2 * depth)

/-! ## Steps of reading -/

/-- A reader gives a value and leaves a text. -/
def Reads {α : Type} {s : List Char} (x : Outcome α s) (a : α) (r : List Char) : Prop :=
  ∃ h, x = .ok (a, ⟨r, h⟩)

theorem reads_text {text : String} (h : Reads (readText s) text r) :
    Reads (readValue room ('"' :: s)) (.str text) r := by
  obtain ⟨hlt, h⟩ := h
  refine ⟨Nat.lt_trans hlt (Nat.lt_succ_self _), ?_⟩
  rw [readValue, h]
  rfl

theorem reads_word {c : Char} {hlt : r.length < (c :: s).length} (hquote : c ≠ '"')
    (hlist : c ≠ '[') (hmap : c ≠ '\x7b') (h : readWord (c :: s) = some (v, ⟨r, hlt⟩)) :
    Reads (readValue room (c :: s)) v r := by
  refine ⟨hlt, ?_⟩
  rw [readValue, h]
  · exact fun t ht => hquote (List.cons.inj ht).1
  · exact fun t ht => hlist (List.cons.inj ht).1
  · exact fun t ht => hmap (List.cons.inj ht).1

theorem reads_empty_list : Reads (readValue (room + 1) ('[' :: ']' :: r)) (.list []) r := by
  refine ⟨by simp only [List.length_cons]; omega, ?_⟩
  rw [readValue, if_neg (Nat.succ_ne_zero room)]
  exact dif_pos rfl

theorem reads_empty_map : Reads (readValue (room + 1) ('\x7b' :: '\x7d' :: r)) (.map []) r := by
  refine ⟨by simp only [List.length_cons]; omega, ?_⟩
  rw [readValue, if_neg (Nat.succ_ne_zero room)]
  exact dif_pos rfl

theorem reads_list {items : List Value} (hhead : (skipSpace s).head? ≠ some ']')
    (h : Reads (readItems room [] (skipSpace s)) items r) :
    Reads (readValue (room + 1) ('[' :: s)) (.list items) r := by
  obtain ⟨hlt, h⟩ := h
  refine ⟨Nat.lt_succ_of_lt (Nat.lt_of_lt_of_le hlt (length_skipSpace_le s)), ?_⟩
  rw [readValue, if_neg (Nat.succ_ne_zero room), dif_neg hhead, Nat.add_sub_cancel, h]
  rfl

theorem reads_map {entries : Entries} (hhead : (skipSpace s).head? ≠ some '\x7d')
    (h : Reads (readEntries room [] (skipSpace s)) entries r) :
    Reads (readValue (room + 1) ('\x7b' :: s)) (.ofEntries entries) r := by
  obtain ⟨hlt, h⟩ := h
  refine ⟨Nat.lt_succ_of_lt (Nat.lt_of_lt_of_le hlt (length_skipSpace_le s)), ?_⟩
  rw [readValue, if_neg (Nat.succ_ne_zero room), dif_neg hhead, Nat.add_sub_cancel, h]
  rfl

theorem reads_last_item {acc : List Value} (h : Reads (readValue room s) v rest)
    (hclose : skipSpace rest = ']' :: r) : Reads (readItems room acc s) (v :: acc).reverse r := by
  obtain ⟨hlt, h⟩ := h
  refine ⟨Nat.lt_trans (length_lt_of_skipSpace hclose) hlt, ?_⟩
  rw [readItems, h]
  dsimp only [bind, Except.bind]
  split
  · next hcomma => cases hclose.symm.trans hcomma
  · next hclose' =>
    cases hclose.symm.trans hclose'
    rfl
  · next hnot => exact absurd hclose (hnot r)

theorem reads_next_item {acc items : List Value} (h : Reads (readValue room s) v rest)
    (hcomma : skipSpace rest = ',' :: t)
    (hitems : Reads (readItems room (v :: acc) (skipSpace t)) items r) :
    Reads (readItems room acc s) items r := by
  obtain ⟨hlt, h⟩ := h
  obtain ⟨hlt', hitems⟩ := hitems
  have hrest := length_lt_of_skipSpace hcomma
  have ht := length_skipSpace_le t
  refine ⟨by omega, ?_⟩
  rw [readItems, h]
  dsimp only [bind, Except.bind]
  split
  · next hcomma' =>
    cases hcomma.symm.trans hcomma'
    rw [hitems]
    rfl
  · next hclose => cases hcomma.symm.trans hclose
  · next hnot _ => exact absurd hcomma (hnot t)

/-- After an opening quote, a key is read and then a value that follows a colon. -/
def ReadsMember (room : Nat) (s : List Char) (key : String) (v : Value) (rest : List Char) : Prop :=
  ∃ t u, Reads (readText s) key t ∧ skipSpace t = ':' :: u ∧
    Reads (readValue room (skipSpace u)) v rest

theorem reads_last_member {acc : Entries} {key : String} (h : ReadsMember room s key v rest)
    (hclose : skipSpace rest = '\x7d' :: r) :
    Reads (readEntries room acc ('"' :: s)) ((.str key, v) :: acc).reverse r := by
  obtain ⟨t, u, ⟨hltKey, hkey⟩, hcolon, hltValue, hv⟩ := h
  have hrest := length_lt_of_skipSpace hclose
  have hu := length_lt_of_separator hltKey hcolon
  refine ⟨by rw [List.length_cons]; omega, ?_⟩
  rw [readEntries, hkey]
  dsimp only [bind, Except.bind]
  split
  · next hcolon' =>
    cases hcolon.symm.trans hcolon'
    rw [hv]
    dsimp only
    split
    · next hcomma => cases hclose.symm.trans hcomma
    · next hclose' =>
      cases hclose.symm.trans hclose'
      rfl
    · next hnot => exact absurd hclose (hnot r)
  · next hnot => exact absurd hcolon (hnot u)

theorem reads_next_member {acc entries : Entries} {key : String} (h : ReadsMember room s key v rest)
    (hcomma : skipSpace rest = ',' :: t)
    (hentries : Reads (readEntries room ((.str key, v) :: acc) (skipSpace t)) entries r) :
    Reads (readEntries room acc ('"' :: s)) entries r := by
  obtain ⟨t', u, ⟨hltKey, hkey⟩, hcolon, hltValue, hv⟩ := h
  obtain ⟨hlt, hentries⟩ := hentries
  have hrest := length_lt_of_skipSpace hcomma
  have hu := length_lt_of_separator hltKey hcolon
  have ht := length_skipSpace_le t
  refine ⟨by rw [List.length_cons]; omega, ?_⟩
  rw [readEntries, hkey]
  dsimp only [bind, Except.bind]
  split
  · next hcolon' =>
    cases hcolon.symm.trans hcolon'
    rw [hv]
    dsimp only
    split
    · next hcomma' =>
      cases hcomma.symm.trans hcomma'
      rw [hentries]
      rfl
    · next hclose => cases hcomma.symm.trans hclose
    · next hnot _ => exact absurd hcomma (hnot t)
  · next hnot => exact absurd hcolon (hnot u)

/-! ## Values that are written -/

/-- A value that is written at any depth is read back, whatever follows it. -/
def ReadBack (charset : Charset) (room : Nat) (v : Value) : Prop :=
  ∀ depth r, Reads (readValue room (render charset depth v ++ r)) v r

/-- A text in quotes starts with one. -/
theorem quote_append (text : String) :
    quote charset text ++ r = '"' :: (text.toList.flatMap (quoteChar charset) ++ '"' :: r) := by
  rw [quote, List.cons_append, List.cons_append, List.append_assoc]
  rfl

/-- A list that is not empty, one item after another. -/
theorem render_list {items : List Value} : render charset depth (.list (v :: items)) ++ r =
    '[' :: (newline (depth + 1) ++ (render charset (depth + 1) v ++
      (renderItems charset (depth + 1) items ++ (newline depth ++ ']' :: r)))) := by
  rw [render]
  simp only [List.append_assoc, List.cons_append, List.nil_append]

/-- The items of a list after the first, one after another. -/
theorem renderItems_cons {items : List Value} : renderItems charset depth (v :: items) ++ r =
    ',' :: (newline depth ++ (render charset depth v ++ (renderItems charset depth items ++ r))) := by
  rw [renderItems]
  simp only [List.append_assoc, List.cons_append]

/-- A member with a text key: the key in quotes, then a colon and the value. -/
def member (charset : Charset) (depth : Nat) (key : String) (v : Value) : List Char :=
  key.toList.flatMap (quoteChar charset) ++ '"' :: ':' :: ' ' :: render charset depth v

/-- A mapping that is not empty, one member after another. -/
theorem render_map {key : String} {entries : Entries} :
    render charset depth (.map ((.str key, v) :: entries)) ++ r =
      '\x7b' :: (newline (depth + 1) ++ ('"' :: (member charset (depth + 1) key v ++
        (renderEntries charset (depth + 1) entries ++ (newline depth ++ '\x7d' :: r))))) := by
  rw [render, keyText, quote, member]
  simp only [List.append_assoc, List.cons_append, List.nil_append]

/-- The members of a mapping after the first, one after another. -/
theorem renderEntries_cons {key : String} {entries : Entries} :
    renderEntries charset depth ((.str key, v) :: entries) ++ r =
      ',' :: (newline depth ++ ('"' :: (member charset depth key v ++
        (renderEntries charset depth entries ++ r)))) := by
  rw [renderEntries, keyText, quote, member]
  simp only [List.append_assoc, List.cons_append, List.nil_append]

/-- A verbal value is written without blanks in front, and not as if a list ended. -/
theorem exists_render_eq_cons (hv : v.isVerbal = true) :
    ∃ c t, render charset depth v ++ r = c :: t ∧ isSpace c = false ∧ c ≠ ']' := by
  cases v with
  | null => exact ⟨_, _, rfl, by decide, by decide⟩
  | bool b => cases b <;> exact ⟨_, _, rfl, by decide, by decide⟩
  | str text => exact ⟨_, _, by rw [render, quote_append], by decide, by decide⟩
  | list items =>
    cases items with
    | nil => exact ⟨_, _, by rw [render]; exact List.cons_append, by decide, by decide⟩
    | cons w items => exact ⟨_, _, render_list, by decide, by decide⟩
  | map entries =>
    cases entries with
    | nil => exact ⟨_, _, by rw [render]; exact List.cons_append, by decide, by decide⟩
    | cons e entries =>
      obtain ⟨k, w⟩ := e
      rw [Value.isVerbal, Bool.and_eq_true, textKeyed_iff, List.forall_mem_map,
        List.forall_mem_cons] at hv
      cases k with
      | str key => exact ⟨_, _, render_map, by decide, by decide⟩
      | _ => cases hv.1.1.1
  | _ => cases hv

theorem skipSpace_render (hv : v.isVerbal = true) :
    skipSpace (newline depth ++ (render charset depth v ++ r)) = render charset depth v ++ r := by
  obtain ⟨c, t, hrender, hc, -⟩ := exists_render_eq_cons hv
  rw [skipSpace_newline, hrender, skipSpace_cons hc]

/-! ## Reading what is written -/

theorem readBack_str (text : String) : ReadBack charset room (.str text) := by
  intro depth r
  rw [render, quote_append]
  exact reads_text (readText_quote charset text)

/-- Items that are read back one by one are read back together. -/
theorem reads_renderItems {acc items : List Value} {below : Nat} (hv : ReadBack charset room v)
    (hitems : ∀ w ∈ items, w.isVerbal = true ∧ ReadBack charset room w) :
    Reads (readItems room acc (render charset depth v ++
      (renderItems charset depth items ++ (newline below ++ ']' :: r))))
      (acc.reverse ++ v :: items) r := by
  induction items generalizing acc v with
  | nil =>
    have hclose : skipSpace (newline below ++ ']' :: r) = ']' :: r := by
      rw [skipSpace_newline, skipSpace_cons (by decide)]
    have hlast : Reads (readItems room acc _) (v :: acc).reverse r :=
      reads_last_item (hv depth _) hclose
    rwa [List.reverse_cons] at hlast
  | cons w items ih =>
    obtain ⟨⟨hw, hback⟩, hitems⟩ := List.forall_mem_cons.1 hitems
    have hrest : Reads (readItems room (v :: acc) _) ((v :: acc).reverse ++ w :: items) r :=
      ih hback hitems
    rw [List.reverse_cons, List.append_assoc] at hrest
    rw [renderItems_cons]
    refine reads_next_item (hv depth _) (skipSpace_cons (by decide)) ?_
    rw [skipSpace_render hw]
    exact hrest

theorem readsMember_member {key : String} (hv : v.isVerbal = true) (h : ReadBack charset room v) :
    ReadsMember room (member charset depth key v ++ r) key v r := by
  have hblank : skipSpace (' ' :: (render charset depth v ++ r)) = render charset depth v ++ r := by
    obtain ⟨c, t, hrender, hc, -⟩ :
        ∃ c t, render charset depth v ++ r = c :: t ∧ isSpace c = false ∧ c ≠ ']' :=
      exists_render_eq_cons hv
    show skipSpace (render charset depth v ++ r) = _
    rw [hrender, skipSpace_cons hc]
  refine ⟨':' :: ' ' :: (render charset depth v ++ r), ' ' :: (render charset depth v ++ r), ?_,
    skipSpace_cons (by decide), ?_⟩
  · rw [member, List.append_assoc, List.cons_append]
    exact readText_quote charset key
  · rw [hblank]
    exact h depth r

/-- Members that are read back one by one are read back together. -/
theorem reads_renderEntries {acc entries : Entries} {key : String} {below : Nat}
    (hv : v.isVerbal = true) (hback : ReadBack charset room v)
    (hentries : ∀ e ∈ entries, e.1.isStr = true ∧ e.2.isVerbal = true ∧ ReadBack charset room e.2) :
    Reads (readEntries room acc ('"' :: (member charset depth key v ++
      (renderEntries charset depth entries ++ (newline below ++ '\x7d' :: r)))))
      (acc.reverse ++ (.str key, v) :: entries) r := by
  induction entries generalizing acc key v with
  | nil =>
    have hclose : skipSpace (newline below ++ '\x7d' :: r) = '\x7d' :: r := by
      rw [skipSpace_newline, skipSpace_cons (by decide)]
    have hmember : ReadsMember room (member charset depth key v ++ (newline below ++ '\x7d' :: r)) key v
        (newline below ++ '\x7d' :: r) := readsMember_member hv hback
    have hlast : Reads (readEntries room acc _) ((.str key, v) :: acc).reverse r :=
      reads_last_member hmember hclose
    rwa [List.reverse_cons] at hlast
  | cons e entries ih =>
    obtain ⟨k, w⟩ := e
    obtain ⟨⟨hk, hw, hwBack⟩, hothers⟩ := List.forall_mem_cons.1 hentries
    cases k with
    | str next =>
      have hrest : Reads (readEntries room ((.str key, v) :: acc) _)
          (((.str key, v) :: acc).reverse ++ (.str next, w) :: entries) r := ih hw hwBack hothers
      rw [List.reverse_cons, List.append_assoc] at hrest
      rw [renderEntries_cons]
      refine reads_next_member (readsMember_member hv hback) (skipSpace_cons (by decide)) ?_
      rw [skipSpace_newline, skipSpace_cons (by decide)]
      exact hrest
    | _ => cases hk

/-- A verbal value is read back where there is room for its lists and mappings. -/
theorem readBack_of_isVerbal (hv : v.isVerbal = true) (hroom : v.nesting ≤ room) :
    ReadBack charset room v := by
  -- The parts of a list or a mapping are smaller values, and each is read back at any depth.
  induction hsize : v.size using Nat.strongRecOn generalizing v room with
  | _ n ih =>
    have hpart : ∀ (w : Value) (room : Nat), w.size < v.size → w.isVerbal = true →
        w.nesting ≤ room → ReadBack charset room w :=
      fun w room hlt hw hroom => ih w.size (hsize ▸ hlt) hw hroom rfl
    intro depth r
    cases v with
    | null => exact reads_word (by decide) (by decide) (by decide) rfl
    | bool b =>
      cases b with
      | true => exact reads_word (by decide) (by decide) (by decide) rfl
      | false => exact reads_word (by decide) (by decide) (by decide) rfl
    | str text => exact readBack_str text depth r
    | list items =>
      obtain ⟨room, rfl⟩ := Nat.exists_eq_succ_of_ne_zero (Nat.ne_zero_of_lt hroom)
      rw [Value.isVerbal, Value.areVerbal_iff] at hv
      rw [Value.nesting, Nat.add_le_add_iff_right, Value.nestingOfItems_le_iff] at hroom
      have hitems : ∀ w ∈ items, w.isVerbal = true ∧ ReadBack charset room w := fun w hw =>
        ⟨hv w hw, hpart w room (Value.size_lt_of_mem hw) (hv w hw) (hroom w hw)⟩
      cases items with
      | nil => exact reads_empty_list
      | cons w items =>
        obtain ⟨⟨hw, hback⟩, hothers⟩ := List.forall_mem_cons.1 hitems
        rw [render_list]
        refine reads_list ?_ ?_
        · obtain ⟨c, t, hrender, -, hc⟩ := exists_render_eq_cons hw
          rw [skipSpace_render hw, hrender]
          exact fun h => hc (Option.some.inj h)
        · rw [skipSpace_render hw]
          exact reads_renderItems hback hothers
    | map entries =>
      obtain ⟨room, rfl⟩ := Nat.exists_eq_succ_of_ne_zero (Nat.ne_zero_of_lt hroom)
      rw [Value.isVerbal, Bool.and_eq_true, Value.haveVerbal_iff] at hv
      rw [Value.nesting, Nat.add_le_add_iff_right, Value.nestingOfEntries_le_iff] at hroom
      obtain ⟨hkeys, hvalues⟩ := hv
      have hentries : ∀ e ∈ entries, e.1.isStr = true ∧ e.2.isVerbal = true ∧
          ReadBack charset room e.2 := fun e he =>
        ⟨(textKeyed_iff.1 hkeys).1 e.1 (List.mem_map_of_mem he), hvalues e he,
          hpart e.2 room (Value.size_lt_of_mem_entries he) (hvalues e he) (hroom e he)⟩
      cases entries with
      | nil => exact reads_empty_map
      | cons e entries =>
        obtain ⟨k, w⟩ := e
        obtain ⟨⟨hk, hw, hback⟩, hothers⟩ := List.forall_mem_cons.1 hentries
        cases k with
        | str key =>
          rw [render_map, ← Value.ofEntries_of_textKeyed hkeys]
          refine reads_map ?_ ?_
          · rw [skipSpace_newline, skipSpace_cons (by decide)]
            exact fun h => absurd (Option.some.inj h) (by decide)
          · rw [skipSpace_newline, skipSpace_cons (by decide)]
            exact reads_renderEntries hw hback hothers
        | _ => cases hk
    | _ => cases hv

/-- The text of a verbal value is read as that value, also with blanks after it. -/
theorem read_write_append (hv : v.isVerbal = true) (hroom : v.nesting ≤ room) {blanks : String}
    (hblanks : blanks.toList.all isSpace = true) :
    read room (write charset v ++ blanks) = .ok v := by
  obtain ⟨c, t, hrender, hc, -⟩ :
      ∃ c t, render charset 0 v ++ blanks.toList = c :: t ∧ isSpace c = false ∧ c ≠ ']' :=
    exists_render_eq_cons hv
  have htext : skipSpace (write charset v ++ blanks).toList =
      render charset 0 v ++ blanks.toList := by
    rw [write, String.toList_append, String.toList_ofList, hrender, skipSpace_cons hc]
  have hreads : Reads (readValue room (skipSpace (write charset v ++ blanks).toList)) v
      blanks.toList := by
    rw [htext]
    exact readBack_of_isVerbal hv hroom 0 blanks.toList
  obtain ⟨hlt, hreads⟩ := hreads
  rw [read, hreads]
  exact if_pos hblanks

/-! ## Carriage returns -/

theorem not_mem_escapeUnit {n : Nat} (h : n < 0x10000) : '\r' ∉ escapeUnit n := by
  have hdigit : ∀ d < 16, '\r' ≠ Nat.digitChar d := by decide
  have hfirst := hdigit (n / 0x1000) (by omega)
  have hsecond := hdigit (n / 0x100 % 16) (by omega)
  have hthird := hdigit (n / 0x10 % 16) (by omega)
  have hfourth := hdigit (n % 16) (by omega)
  rw [escapeUnit, hexadecimal_eq h]
  simp [hfirst, hsecond, hthird, hfourth]

theorem not_mem_escapeUnits (c : Char) : '\r' ∉ escapeUnits c := by
  have h := not_surrogate c
  rw [escapeUnits]
  dsimp only
  split
  · exact not_mem_escapeUnit ‹_›
  · rw [List.mem_append, not_or]
    exact ⟨not_mem_escapeUnit (by omega), not_mem_escapeUnit (by omega)⟩

theorem not_mem_quoteChar (charset : Charset) (c : Char) : '\r' ∉ quoteChar charset c := by
  rw [quoteChar]
  repeat' split
  all_goals first
    | decide
    | exact not_mem_escapeUnit (by omega)
    | exact not_mem_escapeUnits c
    | exact fun h => absurd (beq_iff_eq.2 (List.mem_singleton.1 h).symm) ‹¬ (c == '\r') = true›

theorem not_mem_quote {text : String} : '\r' ∉ quote charset text := by
  have hchars : '\r' ∉ text.toList.flatMap (quoteChar charset) := by
    intro h
    obtain ⟨c, -, hc⟩ := List.mem_flatMap.1 h
    exact not_mem_quoteChar charset c hc
  simp [quote, hchars]

theorem not_mem_newline : '\r' ∉ newline depth := by
  simp [newline, List.mem_replicate]

/-- A verbal value is written without carriage returns. -/
theorem not_mem_render (hv : v.isVerbal = true) : '\r' ∉ render charset depth v := by
  induction hsize : v.size using Nat.strongRecOn generalizing v depth with
  | _ n ih =>
    have hpart : ∀ w : Value, w.size < v.size → w.isVerbal = true →
        ∀ depth, '\r' ∉ render charset depth w :=
      fun w hlt hw depth => ih w.size (hsize ▸ hlt) hw rfl
    have hitems : ∀ (items : List Value) (depth : Nat),
        (∀ w ∈ items, '\r' ∉ render charset depth w) → '\r' ∉ renderItems charset depth items := by
      intro items depth h
      induction items with
      | nil => exact List.not_mem_nil
      | cons w items ih =>
        obtain ⟨hw, hothers⟩ := List.forall_mem_cons.1 h
        simp [renderItems, not_mem_newline, hw, ih hothers]
    have hentries : ∀ (entries : Entries) (depth : Nat),
        (∀ e ∈ entries, '\r' ∉ render charset depth e.2) →
          '\r' ∉ renderEntries charset depth entries := by
      intro entries depth h
      induction entries with
      | nil => exact List.not_mem_nil
      | cons e entries ih =>
        obtain ⟨hw, hothers⟩ := List.forall_mem_cons.1 h
        simp [renderEntries, not_mem_newline, not_mem_quote, hw, ih hothers]
    cases v with
    | null => exact (by decide : '\r' ∉ "null".toList)
    | bool b =>
      cases b with
      | true => exact (by decide : '\r' ∉ "true".toList)
      | false => exact (by decide : '\r' ∉ "false".toList)
    | str text => exact not_mem_quote
    | list items =>
      rw [Value.isVerbal, Value.areVerbal_iff] at hv
      have hall : ∀ w ∈ items, '\r' ∉ render charset (depth + 1) w := fun w hw =>
        hpart w (Value.size_lt_of_mem hw) (hv w hw) _
      cases items with
      | nil => exact (by decide : '\r' ∉ ['[', ']'])
      | cons w items =>
        obtain ⟨hw, hothers⟩ := List.forall_mem_cons.1 hall
        simp [render, not_mem_newline, hw, hitems items _ hothers]
    | map entries =>
      rw [Value.isVerbal, Bool.and_eq_true, Value.haveVerbal_iff] at hv
      have hall : ∀ e ∈ entries, '\r' ∉ render charset (depth + 1) e.2 := fun e he =>
        hpart e.2 (Value.size_lt_of_mem_entries he) (hv.2 e he) _
      cases entries with
      | nil => exact (by decide : '\r' ∉ ['\x7b', '\x7d'])
      | cons e entries =>
        obtain ⟨hw, hothers⟩ := List.forall_mem_cons.1 hall
        simp [render, not_mem_newline, not_mem_quote, hw, hentries entries _ hothers]
    | _ => cases hv

/-- The text of a verbal value has no carriage returns. -/
theorem not_mem_write (hv : v.isVerbal = true) : '\r' ∉ (write charset v).toList := by
  rw [write, String.toList_ofList]
  exact not_mem_render hv

end Json

end ClientPlan
