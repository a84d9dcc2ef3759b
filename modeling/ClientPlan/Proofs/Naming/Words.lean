import ClientPlan.Proofs.Naming.Homes

/-!
# The words of a name

A function name is its words joined by underscores.  Words have no underscores and are not empty, so
they can be read back from the name (`joined_inj`), and a name that starts with another one and an
underscore has the words of that one in front (`joined_prefix_iff`).  So what is left of an id at a
home is a matter of words (`withoutHome_eq_joined`), and so are the homes of an id
(`homes_eq_map_places`) and of an endpoint (`Endpoint.homes_effectiveId`).
-/

set_option autoImplicit false

namespace ClientPlan

namespace Naming

variable {lead words words' : List (List Char)} {id name : String} {tags : List String}

/-! ## Joining words -/

/-- The words joined by underscores. -/
def joined (words : List (List Char)) : List Char := ['_'].intercalate words

/-- Texts that a name can be made of. -/
def AreWords (words : List (List Char)) : Prop := ∀ w ∈ words, w ≠ [] ∧ '_' ∉ w

/-- A word as it stands in names: lowercase letters and digits, at least one. -/
def IsWord (w : List Char) : Prop := w ≠ [] ∧ ∀ c ∈ w, isLower c = true

theorem isWord_of_mem_tokens {cs w : List Char} (h : w ∈ tokens cs) : IsWord w :=
  ⟨ne_nil_of_mem_tokens h, fun _ hc => isLower_of_mem_tokens h hc⟩

theorem areWords_of_isWord (h : ∀ w ∈ words, IsWord w) : AreWords words := fun w hw =>
  ⟨(h w hw).1, fun hc => absurd ((h w hw).2 _ hc) (by decide)⟩

theorem areWords_tokens (cs : List Char) : AreWords (tokens cs) :=
  areWords_of_isWord fun _ => isWord_of_mem_tokens

/-- The words can be read back, unless there are none. -/
theorem splitOn_joined (h : AreWords words) (hne : words ≠ []) :
    (joined words).splitOn '_' = words :=
  List.splitOn_intercalate '_' (fun w hw => (h w hw).2) hne

theorem joined_eq_nil_iff (h : AreWords words) : joined words = [] ↔ words = [] := by
  refine ⟨fun hnil => ?_, fun hnil => by rw [hnil]; rfl⟩
  by_cases hne : words = []
  · exact hne
  · have hwords : [[]] = words := by rw [← splitOn_joined h hne, hnil]; rfl
    exact absurd rfl (h [] (hwords ▸ List.mem_singleton_self [])).1

/-- A name tells its words. -/
theorem joined_inj (h : AreWords words) (h' : AreWords words')
    (heq : joined words = joined words') : words = words' := by
  have hnil : words = [] ↔ words' = [] := by
    rw [← joined_eq_nil_iff h, heq, joined_eq_nil_iff h']
  by_cases hwords : words = []
  · rw [hwords, hnil.1 hwords]
  · rw [← splitOn_joined h hwords, heq, splitOn_joined h' (mt hnil.2 hwords)]

theorem joined_append (hne : words ≠ []) (hne' : words' ≠ []) :
    joined (words ++ words') = joined words ++ '_' :: joined words' := by
  induction words with
  | nil => exact absurd rfl hne
  | cons w r ih =>
    cases r with
    | nil =>
      obtain ⟨w', r', rfl⟩ := List.exists_cons_of_ne_nil hne'
      rw [joined, joined, List.singleton_append, List.intercalate_cons_cons,
        List.intercalate_singleton, List.append_assoc]
      rfl
    | cons u r =>
      have ih : ['_'].intercalate (u :: (r ++ words')) = _ := ih (List.cons_ne_nil u r)
      rw [joined, joined, List.cons_append, List.cons_append, List.intercalate_cons_cons,
        List.intercalate_cons_cons, ih, List.append_assoc _ _ ('_' :: _)]
      rfl

/-- A name starts with another one and an underscore if and only if it has the words of that one in
front of others. -/
theorem joined_prefix_iff (hlead : AreWords lead) (hne : lead ≠ []) (h : AreWords words) :
    joined lead ++ ['_'] <+: joined words ↔ lead <+: words ∧ lead ≠ words := by
  constructor
  · rintro ⟨rest, hrest⟩
    rw [List.append_assoc, List.singleton_append] at hrest
    have hwords : words ≠ [] := by
      rintro rfl
      exact List.append_ne_nil_of_right_ne_nil _ (List.cons_ne_nil _ _) hrest
    have hsplit : words = lead ++ rest.splitOn '_' := by
      rw [← splitOn_joined h hwords, ← hrest, List.splitOn_append_cons_self,
        splitOn_joined hlead hne]
    refine ⟨⟨_, hsplit.symm⟩, fun heq => List.splitOn_ne_nil '_' rest ?_⟩
    exact List.append_cancel_left (by rw [← hsplit, heq, List.append_nil])
  · rintro ⟨⟨rest, rfl⟩, hproper⟩
    have hrest : rest ≠ [] := fun hnil => hproper (by rw [hnil, List.append_nil])
    rw [joined_append hne hrest]
    exact ⟨joined rest, by rw [List.append_assoc, List.singleton_append]⟩

/-! ## Words at a home -/

/-- What is left of the words of an id at a home: without those of the home in front of others. -/
def wordsAt (home id : String) : List (List Char) :=
  let lead := tokens home.toList
  let words := tokens id.toList
  if lead <+: words ∧ lead ≠ words then words.drop lead.length else words

theorem isWord_of_mem_wordsAt {home id : String} : ∀ w ∈ wordsAt home id, IsWord w := by
  intro w hw
  unfold wordsAt at hw
  dsimp only at hw
  split at hw
  · exact isWord_of_mem_tokens (List.mem_of_mem_drop hw)
  · exact isWord_of_mem_tokens hw

/-- What is left of an id at a home is the words that are left. -/
theorem withoutHome_eq_joined {home : String} (hhome : tokens home.toList ≠ []) :
    withoutHome home (normalize id.toList) = joined (wordsAt home id) := by
  have hinFront := joined_prefix_iff (areWords_tokens home.toList) hhome (areWords_tokens id.toList)
  have hlead : normalize home.toList ++ ['_'] = joined (tokens home.toList) ++ ['_'] := rfl
  have hwords : normalize id.toList = joined (tokens id.toList) := rfl
  unfold withoutHome wordsAt
  dsimp only
  rw [hlead, hwords]
  by_cases hfront : tokens home.toList <+: tokens id.toList ∧ tokens home.toList ≠ tokens id.toList
  · rw [if_pos hfront, if_pos (List.isPrefixOf_iff_prefix.2 (hinFront.2 hfront))]
    obtain ⟨⟨rest, hrest⟩, hproper⟩ := hfront
    have hne : rest ≠ [] := fun hnil => hproper (by rw [← hrest, hnil, List.append_nil])
    rw [← hrest, List.drop_left, joined_append hhome hne,
      List.append_cons (joined _) '_' (joined rest), List.drop_left]
  · rw [if_neg hfront, if_neg fun hlead => hfront (hinFront.1 (List.isPrefixOf_iff_prefix.1 hlead))]

/-! ## Places -/

/-- A home whose function is told by its words. -/
structure Place where
  /-- The module path. -/
  modules : List String
  /-- The words of the function. -/
  words : List (List Char)
deriving DecidableEq, Repr

/-- The home that a place is. -/
def Place.home (p : Place) : Home := ⟨p.modules, String.ofList (joined p.words)⟩

/-- The places of an id: its last segment below the others, or what is left of it at each type name
of a tag. -/
def places (id : String) (tags : List String) : List Place :=
  match tagHomes tags with
  | [] => [⟨(pathHome id).modules, tokens ((id.toList.splitOn '/').getLastD [])⟩]
  | names => names.map fun name => ⟨[name], wordsAt name id⟩

theorem places_of_untagged (h : tagHomes tags = []) : places id tags =
    [⟨(pathHome id).modules, tokens ((id.toList.splitOn '/').getLastD [])⟩] := by
  rw [places, h]

theorem places_of_tagged (h : tagHomes tags ≠ []) :
    places id tags = (tagHomes tags).map fun name => ⟨[name], wordsAt name id⟩ := by
  rw [places]
  split
  · next hnil => exact absurd hnil h
  · rfl

theorem isWord_of_mem_places {p : Place} (hp : p ∈ places id tags) : ∀ w ∈ p.words, IsWord w := by
  by_cases h : tagHomes tags = []
  · rw [places_of_untagged h, List.mem_singleton] at hp
    subst hp
    exact fun _ => isWord_of_mem_tokens
  · rw [places_of_tagged h] at hp
    obtain ⟨name, -, rfl⟩ := List.mem_map.1 hp
    exact isWord_of_mem_wordsAt

theorem areWords_of_mem_places {p : Place} (hp : p ∈ places id tags) : AreWords p.words :=
  areWords_of_isWord (isWord_of_mem_places hp)

/-- A type name has words. -/
theorem tokens_ne_nil_of_mem_tagHomes (h : name ∈ tagHomes tags) : tokens name.toList ≠ [] := by
  obtain ⟨hne, t, -, rfl⟩ := mem_tagHomes_iff.1 h
  obtain ⟨c, hc⟩ := List.exists_mem_of_ne_nil _ (mt String.toList_eq_nil_iff.1 hne)
  exact tokens_ne_nil_of_mem hc (isAlphanum_of_mem_typeName hc)

/-- The homes of an id are its places. -/
theorem homes_eq_map_places (id : String) (tags : List String) :
    homes id tags = (places id tags).map Place.home := by
  by_cases h : tagHomes tags = []
  · rw [homes_of_untagged h, places_of_untagged h]
    rfl
  · rw [homes_of_tagged h, places_of_tagged h, List.map_map]
    refine List.map_congr_left fun name hname => ?_
    rw [tagHome, withoutHome_eq_joined (tokens_ne_nil_of_mem_tagHomes hname)]
    rfl

/-- A function has a name if and only if it has words. -/
theorem Place.function_eq_empty_iff {p : Place} (h : AreWords p.words) :
    p.home.function = "" ↔ p.words = [] := by
  rw [← joined_eq_nil_iff h, ← String.toList_eq_nil_iff, home, String.toList_ofList]

end Naming

/-! ## Places of endpoints -/

namespace Endpoint

/-- The places of an endpoint: those of the given id or, if it has no words at one of them, those of
the id that the method and the path stand for. -/
def places (e : Endpoint) : List Naming.Place :=
  let given := Naming.places e.givenId e.tags
  if given.any fun p => p.words.isEmpty then Naming.places e.fallbackId e.tags else given

/-- The homes of an endpoint are its places. -/
theorem homes_effectiveId (e : Endpoint) :
    Naming.homes e.effectiveId e.tags = e.places.map Naming.Place.home := by
  have hunnamed : ((Naming.homes e.givenId e.tags).any fun h => h.function == "") =
      (Naming.places e.givenId e.tags).any fun p => p.words.isEmpty := by
    rw [Naming.homes_eq_map_places, List.any_map, Bool.eq_iff_iff, List.any_eq_true,
      List.any_eq_true]
    refine exists_congr fun p => and_congr_right fun hp => ?_
    rw [Function.comp_apply, beq_iff_eq, List.isEmpty_iff,
      Naming.Place.function_eq_empty_iff (Naming.areWords_of_mem_places hp)]
  unfold effectiveId places
  dsimp only
  rw [hunnamed]
  split
  · exact Naming.homes_eq_map_places _ _
  · exact Naming.homes_eq_map_places _ _

/-- The places of an endpoint are those of one id. -/
theorem exists_places (e : Endpoint) : ∃ id, e.places = Naming.places id e.tags := by
  unfold places
  dsimp only
  split
  · exact ⟨_, rfl⟩
  · exact ⟨_, rfl⟩

end Endpoint

end ClientPlan
