import ClientPlan.Proofs.Api.Ways
import ClientPlan.Proofs.Load.Document

/-!
# What recorded pointers lead to

A description records every schema of a parameter or a content type with a pointer.  The pointer is
spelled along the way on which the schema is read, and it says of every key only what the key reads
like.  So it leads back to the schema if and only if all keys on the way since a reference was
followed last are texts, as they are in JSON; in YAML a status may be written as a number, which is
none.
-/

set_option autoImplicit false

namespace ClientPlan

/-! ## Recorded schemas -/

/-- The schemas that a description records with their pointers. -/
inductive Api.Records (api : Api) : Position → Prop where
  /-- The schema of a parameter of a path. -/
  | shared {item : PathItem} {parameter : Parameter} (hi : item ∈ api.paths.values)
      (hp : parameter ∈ item.parameters) : Records api ⟨parameter.schema, parameter.pointer⟩
  /-- The schema of a parameter that an endpoint has from its path. -/
  | inherited {e : Endpoint} {parameter : Parameter} (he : e ∈ api.endpoints)
      (hp : parameter ∈ e.pathParameters) : Records api ⟨parameter.schema, parameter.pointer⟩
  /-- The schema of a parameter of an endpoint. -/
  | own {e : Endpoint} {parameter : Parameter} (he : e ∈ api.endpoints)
      (hp : parameter ∈ e.parameters) : Records api ⟨parameter.schema, parameter.pointer⟩
  /-- The schema of a content type of a request body. -/
  | body {e : Endpoint} {b : RequestBody} {t : String} {m : Media} (he : e ∈ api.endpoints)
      (hb : e.requestBody = some b) (hm : b.content.get? t = some m) :
      Records api ⟨m.schema, m.pointer⟩
  /-- The schema of a content type of a response. -/
  | response {e : Endpoint} {status : String} {r : Response} {c : Content} {t : String} {m : Media}
      (he : e ∈ api.endpoints) (hr : e.responses.get? status = some r) (hc : r.content = some c)
      (hm : c.get? t = some m) : Records api ⟨m.schema, m.pointer⟩

/-- Every recorded schema stands at the end of a way that is spelled like its pointer. -/
theorem Api.Records.exists_readAt {document : Value} {version : String} {api : Api}
    (hr : readApi document version = .ok api) {p : Position} (h : api.Records p)
    (hp : p.node.isMap = true) : ∃ links node, p.ReadAt document links node := by
  have hitems := stands_of_readApi hr
  have hendpoints : ∀ e ∈ api.endpoints, e.Stands document := fun e he => by
    obtain ⟨item, hitem, he⟩ := List.mem_flatMap.1 he
    exact (hitems item hitem).endpoints e he
  have hmedia : ∀ m : Media, m.Stands document → m.schema.isMap = true →
      ∃ links node, Position.ReadAt document ⟨m.schema, m.pointer⟩ links node := fun m hm hmap => by
    obtain ⟨keys, key, node, hread⟩ := hm hmap
    exact ⟨_, node, hread⟩
  cases h with
  | shared hi hparameter => exact (hitems _ hi).shared _ hparameter hp
  | inherited he hparameter => exact (hendpoints _ he).shared _ hparameter hp
  | own he hparameter => exact (hendpoints _ he).own _ hparameter hp
  | body he hb hm => exact hmedia _ ((hendpoints _ he).body _ hb _ _ hm) hp
  | response he hresponse hc hm =>
    exact hmedia _ ((hendpoints _ he).response _ _ _ hresponse hc _ _ hm) hp

/-! ## Ways over texts -/

/-- Whether no two keys of some entries read alike. -/
def keysReadApart (entries : Entries) : Bool := decide (entries.map fun e => e.1.text).Nodup

/-- All keys on a way are texts. -/
def OverTexts (links : List Link) : Prop := ∀ k, Link.key k ∈ links → k.isStr = true

namespace Way

variable {document : Value} {p : Position} {links : List Link}

/-- What has mappings as members at a key of a well keyed mapping is a list. -/
theorem eq_list_of_member {entries : Entries} {k whole v : Value} {members : List Value}
    (h : (Value.map entries).WellKeyed) (hm : (k, whole) ∈ entries)
    (hw : membersOf (some whole) = .ok members) (hv : v ∈ members) (hmap : v.isMap = true) :
    ∃ items, whole = .list items := by
  obtain ⟨-, hproper, hwhole⟩ := h.entry hm
  have hno : ∀ items : List Value, v ∈ items → (items.all fun v => !v.isMap) = true → False :=
    fun items hitem hall => by
      have := List.all_eq_true.1 hall v hitem
      rw [hmap] at this
      cases this
  rcases mem_items_of_membersOf hw hv hmap with
    ⟨items, hitem, rfl | rfl | rfl⟩ | ⟨inner, w, rfl, hkey⟩
  · exact ⟨items, rfl⟩
  · exact (hno items hitem hproper).elim
  · exact (hno items hitem hproper).elim
  · rw [(hwhole.entry hkey).1] at hmap
    cases hmap

/-- In a well keyed document with indices all that is met on a way over texts is clear. -/
theorem isClear_of_overTexts (hw : document.WellKeyed) (hindices : document.hasIndices = true)
    (h : Way document p links) (hlinks : OverTexts links) : ∀ l ∈ links, l.isClear = true := by
  have hkeys : ∀ entries, wellKeyed entries = true → ∀ e ∈ entries, e.1.isMap = false :=
    fun entries ht e he => (mappingsInLists_iff.1 (Bool.and_eq_true_iff.1 ht).2 e he).1
  have hnode : ∀ {q links'}, Way document q links' → q.node.WellKeyed := everyMap hkeys hw
  induction h with
  | root => exact fun l hl => by cases hl
  | key h hp hm ih =>
    refine List.forall_mem_append.2 ⟨ih fun k hk => hlinks k (List.mem_append_left _ hk), ?_⟩
    exact List.forall_mem_singleton.2 (hlinks _ (List.mem_append_right _ List.mem_cons_self))
  | member h hp hm hw hi hv ih =>
    refine List.forall_mem_append.2 ⟨ih fun k hk => hlinks k (List.mem_append_left _ hk), ?_⟩
    refine List.forall_mem_cons.2
      ⟨hlinks _ (List.mem_append_right _ List.mem_cons_self), List.forall_mem_singleton.2 ?_⟩
    obtain ⟨items, rfl⟩ := eq_list_of_member (hp ▸ hnode h) hm hw (List.mem_of_getElem? hi) hv
    have hp' := hp ▸ hasIndices hkeys ‹document.WellKeyed› hindices h
    exact Value.isCounted_of_hasIndices (Value.hasIndices_of_mem_entries hp' hm)
  | reference h href hv => exact fun l hl => by cases hl

theorem lookupText_of_keysReadApart {entries : Entries} (h : keysReadApart entries = true)
    {k v : Value} (hm : (k, v) ∈ entries) (hk : k.isStr = false) :
    lookupText k.text entries = none := by
  cases hlookup : lookupText k.text entries with
  | none => rfl
  | some w =>
    have hw := Value.mem_of_lookupText hlookup
    rw [keysReadApart, decide_eq_true_eq] at h
    have heq : Value.str k.text = k :=
      congrArg Prod.fst (List.inj_on_of_nodup_map h hw hm rfl)
    rw [← heq] at hk
    cases hk

/-- The segments of a pointer lead nowhere. -/
def Lost (document : Value) (pointer : String) : Prop :=
  ∃ path, Pointer.segments? pointer = some path ∧ Pointer.locate? document path = none

/-- Beyond a pointer that leads nowhere no pointer leads anywhere. -/
theorem Lost.join {pointer : String} (h : Lost document pointer)
    (segments : List Pointer.Segment) : Lost document (Pointer.join pointer segments) := by
  obtain ⟨path, hpath, hlocate⟩ := h
  refine ⟨_, Pointer.segments?_join hpath segments, ?_⟩
  rw [Pointer.locate?_append, hlocate]
  rfl

theorem Lost.resolve_ne_ok {pointer : String} (h : Lost document pointer) (v : Value) :
    Pointer.resolve document pointer ≠ .ok v := by
  obtain ⟨path, hpath, hlocate⟩ := h
  intro hv
  rw [Pointer.resolve, hpath] at hv
  rw [Pointer.walk_eq_ok_iff.1 hv] at hlocate
  cases hlocate

/-- A pointer leads nowhere from a key that is no text on. -/
theorem lost_of_key (hs : document.everyMap keysReadApart = true) {path : List String}
    {entries : Entries} {k v : Value} (hat : p.At document path) (hp : p.node = .map entries)
    (hm : (k, v) ∈ entries) (hk : k.isStr = false) :
    Lost document (Pointer.join p.pointer [.key k]) := by
  have hnode := Pointer.everyMap_locate? hs hat.located
  rw [hp] at hnode
  refine ⟨_, Pointer.segments?_join hat.segments _, ?_⟩
  rw [Pointer.locate?_append, hat.located, Option.bind_some, hp]
  refine Position.At.locate?_singleton.trans ?_
  exact lookupText_of_keysReadApart (Value.test_of_everyMap hnode) hm hk

/-- A way is one over texts, or else its pointer leads nowhere, if no keys read alike. -/
theorem overTexts_or_lost (hw : document.WellKeyed) (hindices : document.hasIndices = true)
    (hs : document.everyMap keysReadApart = true) (h : Way document p links) :
    OverTexts links ∨ Lost document p.pointer := by
  have hkey : ∀ {q links' entries k v}, Way document q links' →
      (OverTexts links' ∨ Lost document q.pointer) → q.node = .map entries → (k, v) ∈ entries →
      OverTexts (links' ++ [.key k]) ∨ Lost document (Pointer.join q.pointer [.key k]) := by
    intro q links' entries k v hway hq hnode hm
    rcases hq with hover | hlost
    · cases hk : k.isStr with
      | true =>
        refine .inl fun k' hk' => ?_
        rcases List.mem_append.1 hk' with hk' | hk'
        · exact hover k' hk'
        · cases List.mem_singleton.1 hk'
          exact hk
      | false =>
        have hclear := isClear_of_overTexts hw hindices hway hover
        obtain ⟨base, hat⟩ := hway.at hw.everyMap_distinctTexts hclear
        exact .inr (lost_of_key hs hat hnode hm hk)
    · exact .inr (hlost.join _)
  induction h with
  | root => exact .inl fun k hk => by cases hk
  | key h hp hm ih => exact hkey h ih hp hm
  | @member p links entries k whole v members i h hp hm hw hi hv ih =>
    rcases hkey h ih hp hm with hover | hlost
    · refine .inl fun k' hk' => hover k' ?_
      rw [List.append_cons, List.mem_append] at hk'
      exact hk'.resolve_right fun hlast => by cases List.mem_singleton.1 hlast
    · have hlost := hlost.join [.index i]
      rw [Pointer.join_join h.pointer_ne_empty] at hlost
      exact .inr hlost
  | reference h href hv => exact .inl fun k hk => by cases hk

end Way

/-! ## Recorded pointers -/

namespace Position.ReadAt

variable {document node : Value} {p : Position} {links : List Link}

/-- The pointer of a schema that is read on a way over texts leads to where it is read. -/
theorem resolve_of_overTexts (h : p.ReadAt document links node) (hw : document.WellKeyed)
    (hindices : document.hasIndices = true) (hlinks : OverTexts links) :
    Pointer.resolve document p.pointer = .ok node := by
  have hclear := h.way.isClear_of_overTexts hw hindices hlinks
  obtain ⟨base, hat⟩ := h.way.at hw.everyMap_distinctTexts hclear
  exact hat.resolve

/-- The pointer of a schema that is read on another way leads nowhere, if no keys read alike. -/
theorem resolve_ne_of_not_overTexts (h : p.ReadAt document links node) (hw : document.WellKeyed)
    (hindices : document.hasIndices = true) (hs : document.everyMap keysReadApart = true)
    (hlinks : ¬ OverTexts links) (v : Value) : Pointer.resolve document p.pointer ≠ .ok v :=
  ((h.way.overTexts_or_lost hw hindices hs).resolve_left hlinks).resolve_ne_ok v

/-- In a document with text keys the pointer of a schema leads to it. -/
theorem resolve_of_hasTextKeys (h : p.ReadAt document links node) (hw : document.WellKeyed)
    (hindices : document.hasIndices = true) (ht : document.hasTextKeys = true) :
    Pointer.resolve document p.pointer = .ok p.node := by
  have hnode : node.hasTextKeys = true := Way.everyMap
    (fun _ hkeys e he => Way.isMap_of_isStr (Way.isStr_of_textKeyed hkeys e he)) ht h.way
  have hheld := h.held
  rw [mappingField_of_hasTextKeys hnode] at hheld
  cases hheld
  exact h.resolve_of_overTexts hw hindices (Way.isStr_of_hasTextKeys ht h.way)

end Position.ReadAt

/-- In JSON every pointer that a description records leads to its schema. -/
theorem resolve_of_records_json {stack : Stack} {text version : String} {document : Value}
    {api : Api} {p : Position} (hjson : jsonValue? stack text = .ok (some document))
    (hindices : document.hasIndices = true) (hr : readApi document version = .ok api)
    (h : api.Records p) (hp : p.node.isMap = true) : Pointer.resolve document p.pointer = .ok p.node := by
  obtain ⟨ht, hw⟩ := wellKeyed_of_jsonValue? hjson
  obtain ⟨links, node, hread⟩ := h.exists_readAt hr hp
  exact hread.resolve_of_hasTextKeys hw hindices ht

/-- Every schema that the description of a loaded document records stands at the end of a way that is
spelled like its pointer.  The pointer leads to it if all keys on the way are texts, and nowhere
otherwise unless two keys of a mapping read alike.  So it always leads to it if all keys of the
document are texts.  For this the document has to have indices, as all do that can be held. -/
theorem resolve_of_records {s : Surroundings} {source version : String} {document : Value}
    {api : Api} {p : Position} (hload : s.load source = .ok document)
    (hr : readApi document version = .ok api) (h : api.Records p) (hp : p.node.isMap = true) :
    (document.hasIndices = true → document.hasTextKeys = true →
      Pointer.resolve document p.pointer = .ok p.node) ∧
    ∃ links node, p.ReadAt document links node ∧
      (document.hasIndices = true → OverTexts links →
        Pointer.resolve document p.pointer = .ok node) ∧
      (document.hasIndices = true → document.everyMap keysReadApart = true → ¬ OverTexts links →
        ∀ v, Pointer.resolve document p.pointer ≠ .ok v) := by
  have hw := Surroundings.wellKeyed_of_load hload
  obtain ⟨links, node, hread⟩ := h.exists_readAt hr hp
  exact ⟨hread.resolve_of_hasTextKeys hw, links, node, hread, hread.resolve_of_overTexts hw,
    hread.resolve_ne_of_not_overTexts hw⟩

/-- A text in YAML whose only response has the status `status`. -/
def statusText (status : String) : String :=
  "paths:\n /x:\n  get:\n   responses:\n    " ++ status ++
    ":\n     content:\n      application/json:\n       schema:\n        type: object"

/-- Surroundings in which every address has a text in YAML. -/
def serving (text : String) : Surroundings where
  files := ⟨.empty⟩
  directory := .ofText "/"
  environment := .empty
  input := ""
  fetch := fun _ => .answered 200 "text/yaml" text

/-- The pointer that is recorded for the schema of the response. -/
def statusPointer : String := "#/paths/~1x/get/responses/200/content/application~1json/schema"

/-- The response to `200` is recorded at the same pointer, however the status is written. -/
theorem exists_records_statusText (status : String) (test : Value → Bool)
    (h : (((serving (statusText status)).load "http://a").toOption.any fun document =>
      test document && (readApi document "3.0.3").toOption.any fun api =>
        api.endpoints.any fun e => (e.responses.get? "200").any fun r => r.content.any fun c =>
          (c.get? "application/json").any fun m =>
            m.schema.isMap && m.pointer == statusPointer) = true) :
    ∃ document api p, (serving (statusText status)).load "http://a" = .ok document ∧
      test document = true ∧ readApi document "3.0.3" = .ok api ∧ api.Records p ∧
      p.node.isMap = true ∧ p.pointer = statusPointer := by
  obtain ⟨document, hload, h⟩ := toOption_any_eq_true.1 h
  obtain ⟨htest, h⟩ := Bool.and_eq_true_iff.1 h
  obtain ⟨api, hapi, h⟩ := toOption_any_eq_true.1 h
  obtain ⟨e, he, h⟩ := List.any_eq_true.1 h
  obtain ⟨r, hr, h⟩ := (Option.any_eq_true _ _).1 h
  obtain ⟨c, hc, h⟩ := (Option.any_eq_true _ _).1 h
  obtain ⟨m, hm, h⟩ := (Option.any_eq_true _ _).1 h
  obtain ⟨hmap, hpointer⟩ := Bool.and_eq_true_iff.1 h
  exact ⟨document, api, _, hload, htest, hapi, .response he hr hc hm, hmap, eq_of_beq hpointer⟩

/-- The pointer to the response to `"200"` leads to its schema. -/
theorem resolve_statusPointer : ∃ (s : Surroundings) (source : String) (document : Value)
    (api : Api) (p : Position), s.load source = .ok document ∧ document.hasIndices = true ∧
    readApi document "3.0.3" = .ok api ∧ api.Records p ∧ p.node.isMap = true ∧
    p.pointer = statusPointer ∧ Pointer.resolve document p.pointer = .ok p.node := by
  obtain ⟨document, api, p, hload, htest, hapi, hp, hmap, hpointer⟩ :=
    exists_records_statusText "\"200\"" (fun document => document.hasIndices && document.hasTextKeys)
      (by decide +kernel)
  obtain ⟨hindices, hkeys⟩ := Bool.and_eq_true_iff.1 htest
  exact ⟨_, _, document, api, p, hload, hindices, hapi, hp, hmap, hpointer,
    (resolve_of_records hload hapi hp hmap).1 hindices hkeys⟩

/-- The pointer to the response to the number `200` leads nowhere. -/
theorem resolve_ne_of_number : ∃ (s : Surroundings) (source : String) (document : Value)
    (api : Api) (p : Position), s.load source = .ok document ∧
    readApi document "3.0.3" = .ok api ∧ api.Records p ∧ p.node.isMap = true ∧
    p.pointer = statusPointer ∧ ∀ v, Pointer.resolve document p.pointer ≠ .ok v := by
  obtain ⟨document, api, p, hload, hnone, hapi, hp, hmap, hpointer⟩ :=
    exists_records_statusText "200"
      (fun document => (Pointer.resolve document statusPointer).toOption.isNone)
      (by decide +kernel)
  refine ⟨_, _, document, api, p, hload, hapi, hp, hmap, hpointer, fun v hv => ?_⟩
  rw [hpointer] at hv
  rw [hv] at hnone
  cases hnone

end ClientPlan
