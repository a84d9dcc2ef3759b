import ClientPlan.Proofs.Naming.Boundaries

/-!
# Ids made of methods and paths

An endpoint without an id is named after its method and path, with each placeholder spelled out.  A
path that goes on may close a brace that was open, and then a placeholder stands where there was
none; but it keeps all its letters and digits, and a placeholder brings letters of its own
(`letters_spell_append_le`).  So the id of an item has more letters and digits than that of its
collection.  Main statement: such ids tell their methods, and tell an item from its collection
(`fallbackId_apart`).
-/

set_option autoImplicit false

namespace ClientPlan.Naming

variable {c : Char} {s t name rest : List Char} {method : String}

/-! ## Placeholders -/

/-- A text goes on as a placeholder just if a name without braces and a closing brace come next. -/
theorem closing?_eq_some_iff : closing? s = some (name, rest) ↔
    s = name ++ '\x7d' :: rest ∧ ∀ c ∈ name, isInner c = true := by
  constructor
  · intro h
    rw [closing?] at h
    split at h
    · next r hdrop =>
      obtain ⟨rfl, rfl⟩ := Prod.mk.inj (Option.some.inj h)
      refine ⟨?_, List.all_eq_true.1 List.all_takeWhile⟩
      rw [← hdrop, List.takeWhile_append_dropWhile]
    · cases h
  · rintro ⟨rfl, hname⟩
    have hclose : ¬ isInner '\x7d' = true := by decide
    rw [closing?, List.dropWhile_append_of_pos hname, List.dropWhile_cons_of_neg hclose,
      List.takeWhile_append_of_pos hname, List.takeWhile_cons_of_neg hclose, List.append_nil]
    rfl

/-- A text that does not go on as a placeholder does so with more behind it only if it has no brace
and the name ends in what is behind it. -/
theorem closing?_append_of_none (hs : closing? s = none)
    (h : closing? (s ++ t) = some (name, rest)) :
    ∃ more, name = s ++ more ∧ t = more ++ '\x7d' :: rest := by
  obtain ⟨heq, hname⟩ := closing?_eq_some_iff.1 h
  rcases List.append_eq_append_iff.1 heq with ⟨more, rfl, rfl⟩ | ⟨more, rfl, hmore⟩
  · exact ⟨more, rfl, rfl⟩
  · cases more with
    | nil => exact ⟨[], by rw [List.append_nil, List.append_nil], hmore.symm⟩
    | cons c more =>
      cases hmore
      cases hs.symm.trans (closing?_eq_some_iff.2 ⟨rfl, hname⟩)

/-- A complete placeholder stands in a text. -/
def HasPlaceholder (text : String) : Prop :=
  ∃ before name after, text.toList = before ++ '\x7b' :: (name ++ '\x7d' :: after) ∧
    ∀ c ∈ name, isInner c = true

/-! ## Spelling out -/

/-- A part of a template as it is spelled out. -/
def Piece.spelled : Piece → List Char
  | literal c => [c]
  | placeholder name => 'b' :: 'y' :: '_' :: name

/-- A template with its placeholders spelled out. -/
def spell (s : List Char) : List Char := (pieces s).flatMap Piece.spelled

theorem spelledOut_eq (path : String) : spelledOut path = spell path.toList := by
  refine congrArg (fun f => (pieces path.toList).flatMap f) (funext fun piece => ?_)
  cases piece with
  | literal c => rfl
  | placeholder name => rfl

theorem spell_nil : spell [] = [] := by
  rw [spell, pieces, List.flatMap_nil]

theorem spell_cons (h : c ≠ '\x7b') (s : List Char) : spell (c :: s) = c :: spell s := by
  rw [spell, pieces, if_neg (by simpa using h), List.flatMap_cons]
  rfl

theorem spell_placeholder (h : closing? s = some (name, rest)) :
    spell ('\x7b' :: s) = 'b' :: 'y' :: '_' :: (name ++ spell rest) := by
  rw [spell, pieces, if_pos (beq_self_eq_true _)]
  split
  · next name' rest' h' =>
    cases h.symm.trans h'
    rfl
  · next h' => cases h.symm.trans h'

theorem spell_brace (h : closing? s = none) : spell ('\x7b' :: s) = '\x7b' :: spell s := by
  rw [spell, pieces, if_pos (beq_self_eq_true _)]
  split
  · next name' rest' h' => cases h.symm.trans h'
  · rfl

/-- Text without braces is spelled as it is. -/
theorem spell_append_of_isInner (h : ∀ c ∈ s, isInner c = true) (t : List Char) :
    spell (s ++ t) = s ++ spell t := by
  induction s with
  | nil => rfl
  | cons c s ih =>
    obtain ⟨hc, hs⟩ := List.forall_mem_cons.1 h
    have hne : c ≠ '\x7b' := by
      rintro rfl
      cases hc
    rw [List.cons_append, spell_cons hne, ih hs, List.cons_append]

/-! ## Letters and digits -/

/-- The number of letters and digits in a text. -/
def letters (s : List Char) : Nat := s.countP Char.isAlphanum

theorem letters_append (s t : List Char) : letters (s ++ t) = letters s + letters t :=
  List.countP_append

theorem letters_cons (c : Char) (s : List Char) :
    letters (c :: s) = letters s + if c.isAlphanum then 1 else 0 := List.countP_cons

/-- The letters and digits of a text are those of its tokens. -/
theorem length_flatten_tokens (s : List Char) : (tokens s).flatten.length = letters s := by
  rw [flatten_tokens, List.length_map, letters, List.countP_eq_length_filter]
  exact congrArg List.length (List.filter_congr fun c _ => Bool.not_not _)

theorem letters_spell_cons (h : c ≠ '\x7b') (s : List Char) :
    letters (spell (c :: s)) = letters (spell s) + if c.isAlphanum then 1 else 0 := by
  rw [spell_cons h, letters_cons]

/-- A placeholder has the letters of its name and two more. -/
theorem letters_spell_placeholder (h : closing? s = some (name, rest)) :
    letters (spell ('\x7b' :: s)) = letters name + letters (spell rest) + 2 := by
  rw [spell_placeholder h, letters_cons, letters_cons, letters_cons, letters_append]
  rfl

theorem letters_spell_brace (h : closing? s = none) :
    letters (spell ('\x7b' :: s)) = letters (spell s) := by
  rw [spell_brace h, letters_cons]
  rfl

/-- A template that goes on keeps its letters and digits and gets those of what comes behind it. -/
theorem letters_spell_append_le (s t : List Char) :
    letters (spell s) + letters (spell t) ≤ letters (spell (s ++ t)) := by
  -- By the parts of the template in front; only an open brace may read differently.
  fun_induction pieces s with
  | case1 => rw [spell_nil, List.nil_append]; exact Nat.le_of_eq (Nat.zero_add _)
  | case2 c s hc name rest hclosing ih =>
    obtain rfl : c = '\x7b' := by simpa using hc
    obtain ⟨rfl, hname⟩ := closing?_eq_some_iff.1 hclosing
    have hlonger : closing? (name ++ '\x7d' :: rest ++ t) = some (name, rest ++ t) :=
      closing?_eq_some_iff.2 ⟨by rw [List.append_assoc, List.cons_append], hname⟩
    rw [List.cons_append, letters_spell_placeholder hclosing, letters_spell_placeholder hlonger]
    omega
  | case3 c s hc hclosing ih =>
    obtain rfl : c = '\x7b' := by simpa using hc
    rw [List.cons_append, letters_spell_brace hclosing]
    cases hlonger : closing? (s ++ t) with
    | none => rwa [letters_spell_brace hlonger]
    | some found =>
      -- The brace is closed by what comes behind: all between them becomes a name.
      obtain ⟨name, rest⟩ := found
      have hname := (closing?_eq_some_iff.1 hlonger).2
      obtain ⟨more, rfl, rfl⟩ := closing?_append_of_none hclosing hlonger
      obtain ⟨hs, hmore⟩ := List.forall_mem_append.1 hname
      have hfront : spell s = s := by
        rw [← List.append_nil s, spell_append_of_isInner hs, spell_nil]
      rw [letters_spell_placeholder hlonger, spell_append_of_isInner hmore, hfront, letters_append,
        letters_append, letters_spell_cons (by decide)]
      simp only [show ('\x7d' : Char).isAlphanum = false from rfl, Bool.false_eq_true, if_false]
      omega
  | case4 c s hc ih =>
    have hne : c ≠ '\x7b' := by simpa using hc
    rw [List.cons_append, letters_spell_cons hne, letters_spell_cons hne]
    omega

/-- A text with a letter or digit or with a placeholder has letters when it is spelled out. -/
theorem letters_spell_pos {text : String}
    (h : (∃ c ∈ text.toList, c.isAlphanum = true) ∨ HasPlaceholder text) :
    0 < letters (spell text.toList) := by
  rcases h with ⟨c, hc, halphanum⟩ | ⟨before, name, after, htext, hname⟩
  · obtain ⟨before, after, htext⟩ := List.append_of_mem hc
    have hne : c ≠ '\x7b' := by
      rintro rfl
      cases halphanum
    have hle := letters_spell_append_le before (c :: after)
    rw [← htext, letters_spell_cons hne, halphanum, if_pos rfl] at hle
    omega
  · have hle := letters_spell_append_le before ('\x7b' :: (name ++ '\x7d' :: after))
    rw [← htext, letters_spell_placeholder (closing?_eq_some_iff.2 ⟨rfl, hname⟩)] at hle
    omega

/-! ## Ids -/

theorem tokens_fallbackId (method path : String) : tokens (fallbackId method path).toList =
    tokens (method.toList ++ ' ' :: spell path.toList) := by
  rw [fallbackId, String.toList_ofList, tokens_normalize, spelledOut_eq]

/-- An id has the letters and digits of the method and of the path that is spelled out. -/
theorem letters_fallbackId (method path : String) :
    letters (fallbackId method path).toList =
      letters method.toList + letters (spell path.toList) := by
  rw [← length_flatten_tokens, tokens_fallbackId, length_flatten_tokens, letters_append,
    letters_cons]
  rfl

theorem isWord_name (m : Method) : IsWord m.name.toList := by
  cases m
  all_goals exact ⟨List.cons_ne_nil _ _, List.all_eq_true.1 (by decide)⟩

/-- The first word of an id is the method. -/
theorem head?_tokens_fallbackId (m : Method) (path : String) :
    (tokens (fallbackId m.name path).toList).head? = some m.name.toList := by
  have hspace (c : Char) : (' ' :: spell path.toList).head?.any (joins c) = false := by
    show joins c ' ' = false
    unfold joins
    split <;> rfl
  rw [tokens_fallbackId, tokens_word_append (isWord_name m) hspace, List.head?_cons]

theorem eq_of_name_eq {m n : Method} : m.name = n.name → m = n := by
  cases m <;> cases n <;> decide

/-- Ids that are made of methods and paths tell their methods, and an id changes when the path goes
on with a letter, a digit or a placeholder. -/
theorem fallbackId_apart :
    (∀ (m n : Method) (p q : String), fallbackId m.name p = fallbackId n.name q → m = n) ∧
    ∀ method p rest : String, (∃ c ∈ rest.toList, c.isAlphanum = true) ∨ HasPlaceholder rest →
      fallbackId method p ≠ fallbackId method (p ++ "/" ++ rest) := by
  constructor
  · intro m n p q heq
    have hhead := head?_tokens_fallbackId m p
    rw [heq, head?_tokens_fallbackId] at hhead
    exact (eq_of_name_eq (String.toList_inj.1 (Option.some.inj hhead))).symm
  · intro method p rest hrest heq
    have hpath : (p ++ "/" ++ rest).toList = p.toList ++ '/' :: rest.toList := by
      rw [String.toList_append, String.toList_append, List.append_assoc]
      rfl
    have hletters := letters_fallbackId method p
    rw [heq, letters_fallbackId, hpath] at hletters
    have hle := letters_spell_append_le p.toList ('/' :: rest.toList)
    rw [letters_spell_cons (by decide)] at hle
    have hpos := letters_spell_pos hrest
    omega

/-- A brace that is open at the end of a collection is closed by the item, whose only other part is a
placeholder without a name. -/
theorem fallbackId_apart_open :
    HasPlaceholder "\x7d/\x7b\x7d" ∧
    fallbackId "get" "/pets/\x7bid" = "get_pets_id" ∧
    fallbackId "get" ("/pets/\x7bid" ++ "/" ++ "\x7d/\x7b\x7d") = "get_pets_by_id_by" ∧
    fallbackId "get" "/pets/\x7bid" ≠
      fallbackId "get" ("/pets/\x7bid" ++ "/" ++ "\x7d/\x7b\x7d") := by
  have hplaceholder : HasPlaceholder "\x7d/\x7b\x7d" :=
    ⟨['\x7d', '/'], [], [], rfl, List.forall_mem_nil _⟩
  exact ⟨hplaceholder, by decide +kernel, by decide +kernel,
    fallbackId_apart.2 "get" "/pets/\x7bid" "\x7d/\x7b\x7d" (.inr hplaceholder)⟩

end ClientPlan.Naming
