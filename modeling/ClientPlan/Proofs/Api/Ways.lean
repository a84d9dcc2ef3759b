import ClientPlan.Api.Reader
import ClientPlan.Proofs.OrderedMap
import ClientPlan.Proofs.Pointer.Location
import Mathlib.Data.List.ReduceOption

/-!
# The ways of reading

A description is read from a document step by step: to the value at a key, to a member of a list, or
to where a reference leads.  The pointer to a schema is spelled along the way, and it starts anew
wherever a reference is followed.  `Way` is such a way from the document to a node, and the schemas
of a description that is read are what stands at the ends of ways (`Endpoint.Stands`).

A pointer says of a step only what it reads like.  So a way leads to where its pointer does if all
its steps are clear: to text keys of mappings and to items of lists (`Way.at`).
-/

set_option autoImplicit false

namespace ClientPlan

/-! ## Links -/

/-- A step of a way. -/
inductive Link where
  /-- To the value at a key. -/
  | key (k : Value)
  /-- To a member of what is run through like a list. -/
  | member (whole : Value) (i : Nat)

namespace Link

/-- The segment that a step is spelled as. -/
def segment : Link → Pointer.Segment
  | key k => .key k
  | member _ i => .index i

/-- What a step reads like in a pointer. -/
def text (l : Link) : String := l.segment.text

/-- Whether a step can be taken back from what it reads like: it is one to a text key or to an item
of a list whose items are counted. -/
def isClear : Link → Bool
  | key k => k.isStr
  | member (.list items) _ => Value.isCounted items
  | member _ _ => false

end Link

/-! ## Members -/

/-- A mapping among the members of a value is one of its items, or one of its keys. -/
theorem mem_items_of_membersOf {whole v : Value} {members : List Value}
    (h : membersOf (some whole) = .ok members) (hm : v ∈ members) (hv : v.isMap = true) :
    (∃ items, v ∈ items ∧ (whole = .list items ∨ whole = .tuple items ∨ whole = .set items)) ∨
      ∃ entries w, whole = .map entries ∧ (v, w) ∈ entries := by
  unfold membersOf at h
  dsimp only at h
  split at h
  · cases h
    cases hm
  · cases whole with
    | list items =>
      cases h
      exact .inl ⟨_, hm, .inl rfl⟩
    | tuple items =>
      cases h
      exact .inl ⟨_, hm, .inr (.inl rfl)⟩
    | set items =>
      cases h
      exact .inl ⟨_, hm, .inr (.inr rfl)⟩
    | map entries =>
      cases h
      obtain ⟨⟨k, w⟩, he, rfl⟩ := List.mem_map.1 hm
      exact .inr ⟨entries, w, rfl, he⟩
    | str s =>
      cases h
      obtain ⟨c, -, rfl⟩ := List.mem_map.1 hm
      cases hv
    | bytes octets =>
      cases h
      obtain ⟨n, -, rfl⟩ := List.mem_map.1 hm
      cases hv
    | _ => cases h

/-- The members of a list are its items. -/
theorem eq_of_membersOf_list {items members : List Value}
    (h : membersOf (some (.list items)) = .ok members) : members = items := by
  unfold membersOf at h
  dsimp only at h
  split at h
  · next hempty =>
    cases h
    cases items with
    | nil => rfl
    | cons => cases hempty
  · exact (Except.ok.inj h).symm

/-! ## Ways -/

/-- A way from a document to a node, spelled as a pointer: the steps since a reference was followed
last. -/
inductive Way (document : Value) : Position → List Link → Prop where
  /-- The document itself. -/
  | root : Way document ⟨document, "#"⟩ []
  /-- A step to the value at a key. -/
  | key {p : Position} {links : List Link} {entries : Entries} {k v : Value}
      (h : Way document p links) (hp : p.node = .map entries) (hm : (k, v) ∈ entries) :
      Way document ⟨v, Pointer.join p.pointer [.key k]⟩ (links ++ [.key k])
  /-- Two steps: to the value at a key, and to one of its members, which is a mapping. -/
  | member {p : Position} {links : List Link} {entries : Entries} {k whole v : Value}
      {members : List Value} {i : Nat} (h : Way document p links) (hp : p.node = .map entries)
      (hm : (k, whole) ∈ entries) (hw : membersOf (some whole) = .ok members)
      (hi : members[i]? = some v) (hv : v.isMap = true) :
      Way document ⟨v, Pointer.join p.pointer [.key k, .index i]⟩
        (links ++ [.key k, .member whole i])
  /-- A reference is followed. -/
  | reference {p : Position} {links : List Link} {ref : String} {v : Value}
      (h : Way document p links) (href : p.node.get? referenceKey = some (.str ref))
      (hv : Pointer.resolve document ref = .ok v) : Way document ⟨v, ref⟩ []

theorem at_root (document : Value) : Position.At document ⟨document, "#"⟩ [] := ⟨rfl, rfl⟩

namespace Way

variable {document : Value} {p : Position} {links : List Link}

theorem pointer_ne_empty (h : Way document p links) : p.pointer ≠ "" := by
  cases h with
  | root => exact (by decide : "#" ≠ "")
  | key h hp hm => exact Pointer.join_ne_empty
  | member h hp hm hw hi hv => exact Pointer.join_ne_empty
  | reference h href hv =>
    obtain ⟨path, hp⟩ := Position.At.of_resolve hv
    exact hp.pointer_ne_empty

/-- A step to the value at a text key. -/
theorem field (h : Way document p links) {key : String} {v : Value}
    (hv : p.node.get? key = some v) :
    Way document ⟨v, Pointer.field p.pointer key⟩ (links ++ [.key (.str key)]) := by
  cases hp : p.node with
  | map entries =>
    rw [hp] at hv
    exact h.key hp (Value.mem_of_lookupText hv)
  | _ =>
    rw [hp] at hv
    cases hv

/-- A chain of references from the end of a way leads nowhere else, or to the end of a way that has
just begun. -/
theorem follow (h : Way document p links) {node : Value} {pointer : String}
    (hf : Pointer.follow document p.node p.pointer = .ok (node, pointer)) :
    (⟨node, pointer⟩ : Position) = p ∨ Way document ⟨node, pointer⟩ [] := by
  have hchain : ∀ seen v start links, Way document ⟨v, start⟩ links →
      Pointer.followFrom document seen v start = .ok (node, pointer) →
        (⟨node, pointer⟩ : Position) = ⟨v, start⟩ ∨ Way document ⟨node, pointer⟩ [] := by
    intro seen v start links hv hfrom
    fun_induction Pointer.followFrom document seen v start generalizing links with
    | case1 seen v start hr =>
      cases hfrom
      exact .inl rfl
    | case2 seen v start r hr e he => cases hfrom
    | case3 seen v start r hr ref href hseen => cases hfrom
    | case4 seen v start r hr ref href hseen e he => cases hfrom
    | case5 seen v start r hr ref href hseen target htarget ih =>
      have htargetWay := hv.reference (Value.eq_str_of_reference href ▸ hr) htarget
      rcases ih [] htargetWay hfrom with heq | hway
      · exact .inr (heq ▸ htargetWay)
      · exact .inr hway
  exact hchain [] p.node p.pointer links h hf

/-- The way to the schema of a content type. -/
theorem content (h : Way document p links) {entries : Entries}
    (hc : p.node.get? "content" = some (.map entries)) {contentType media v : Value}
    (hm : (contentType, media) ∈ entries) (hs : media.get? "schema" = some v) :
    Way document ⟨v, Pointer.join p.pointer ["content", .key contentType, "schema"]⟩
      (links ++ [.key (.str "content"), .key contentType, .key (.str "schema")]) := by
  have hway := ((h.field hc).key rfl hm).field hs
  rw [Pointer.field, Pointer.field, Pointer.join_join h.pointer_ne_empty,
    Pointer.join_join h.pointer_ne_empty] at hway
  simp only [List.append_assoc, List.singleton_append] at hway
  exact hway

/-- The segments of the pointer of a way end in what its steps read like. -/
theorem exists_segments (h : Way document p links) :
    ∃ base, Pointer.segments? p.pointer = some (base ++ links.map Link.text) := by
  induction h with
  | root => exact ⟨[], rfl⟩
  | key _ _ _ ih =>
    obtain ⟨base, hbase⟩ := ih
    refine ⟨base, ?_⟩
    rw [List.map_append, ← List.append_assoc]
    exact Pointer.segments?_join hbase _
  | member _ _ _ _ _ _ ih =>
    obtain ⟨base, hbase⟩ := ih
    refine ⟨base, ?_⟩
    rw [List.map_append, ← List.append_assoc]
    exact Pointer.segments?_join hbase _
  | reference _ _ hv =>
    obtain ⟨path, hat⟩ := Position.At.of_resolve hv
    exact ⟨path, by rw [List.map_nil, List.append_nil]; exact hat.segments⟩

/-! ## What is met on a way -/

/-- At the end of a way every mapping passes a test, if every mapping of the document does and a
mapping that passes has no mappings as keys. -/
theorem everyMap {test : Entries → Bool}
    (ht : ∀ entries, test entries = true → ∀ e ∈ entries, e.1.isMap = false)
    (hd : document.everyMap test = true) (h : Way document p links) :
    p.node.everyMap test = true := by
  induction h with
  | root => exact hd
  | key h hp hm ih =>
    rw [hp] at ih
    exact Value.everyMap_of_mem_entries ih hm
  | member h hp hm hw hi hv ih =>
    rw [hp] at ih
    have hwhole := Value.everyMap_of_mem_entries ih hm
    rcases mem_items_of_membersOf hw (List.mem_of_getElem? hi) hv with
      ⟨items, hmem, rfl | rfl | rfl⟩ | ⟨entries, w, rfl, hmem⟩
    · exact Value.everyMap_of_mem hwhole hmem
    · exact Value.everyMap_of_mem hwhole hmem
    · exact Value.everyMap_of_mem hwhole hmem
    · rw [ht _ (Value.test_of_everyMap hwhole) _ hmem] at hv
      cases hv
  | reference h href hv =>
    obtain ⟨path, hat⟩ := Position.At.of_resolve hv
    exact Pointer.everyMap_locate? hd hat.located

/-- At the end of a way every list has indices, if the document has and no mapping of it has mappings
as keys. -/
theorem hasIndices {test : Entries → Bool}
    (ht : ∀ entries, test entries = true → ∀ e ∈ entries, e.1.isMap = false)
    (hd : document.everyMap test = true) (hindices : document.hasIndices = true)
    (h : Way document p links) : p.node.hasIndices = true := by
  induction h with
  | root => exact hindices
  | key h hp hm ih =>
    rw [hp] at ih
    exact Value.hasIndices_of_mem_entries ih hm
  | member h hp hm hw hi hv ih =>
    have hnode := everyMap ht hd h
    rw [hp] at ih hnode
    have hwhole := Value.hasIndices_of_mem_entries ih hm
    rcases mem_items_of_membersOf hw (List.mem_of_getElem? hi) hv with
      ⟨items, hmem, rfl | rfl | rfl⟩ | ⟨entries, w, rfl, hmem⟩
    · exact Value.hasIndices_of_mem hwhole hmem
    · exact Value.itemsHaveIndices_iff.1 hwhole _ hmem
    · exact Value.itemsHaveIndices_iff.1 hwhole _ hmem
    · rw [ht _ (Value.test_of_everyMap (Value.everyMap_of_mem_entries hnode hm)) _ hmem] at hv
      cases hv
  | reference h href hv =>
    obtain ⟨path, hat⟩ := Position.At.of_resolve hv
    exact hat.hasIndices hindices

theorem isMap_of_isStr {v : Value} (h : v.isStr = true) : v.isMap = false := by
  cases v with
  | str s => rfl
  | _ => cases h

theorem isStr_of_textKeyed {entries : Entries} (h : textKeyed entries = true) :
    ∀ e ∈ entries, e.1.isStr = true := by
  rw [textKeyed, Bool.and_eq_true, List.all_eq_true] at h
  exact h.1

/-- In a document with text keys all keys on a way are texts. -/
theorem isStr_of_hasTextKeys (hd : document.hasTextKeys = true) (h : Way document p links) :
    ∀ k, Link.key k ∈ links → k.isStr = true := by
  have hkeys : ∀ {q links'}, Way document q links' → q.node.hasTextKeys = true :=
    everyMap (fun entries ht e he => isMap_of_isStr (isStr_of_textKeyed ht e he)) hd
  induction h with
  | root => exact fun k hk => by cases hk
  | key h hp hm ih =>
    intro k hk
    have hnode := hkeys h
    rw [hp] at hnode
    rcases List.mem_append.1 hk with hk | hk
    · exact ih k hk
    · cases List.mem_singleton.1 hk
      exact isStr_of_textKeyed (textKeyed_of_hasTextKeys hnode) _ hm
  | member h hp hm hw hi hv ih =>
    intro k hk
    have hnode := hkeys h
    rw [hp] at hnode
    rcases List.mem_append.1 hk with hk | hk
    · exact ih k hk
    · rcases List.mem_cons.1 hk with heq | hk
      · cases heq
        exact isStr_of_textKeyed (textKeyed_of_hasTextKeys hnode) _ hm
      · cases List.mem_singleton.1 hk
  | reference h href hv => exact fun k hk => by cases hk

/-! ## Clear ways -/

/-- A step to a text key is taken back. -/
theorem at_key (hd : document.everyMap distinctTexts = true) {base : List String} {k v : Value}
    {entries : Entries} (hat : p.At document base) (hp : p.node = .map entries)
    (hm : (k, v) ∈ entries) (hk : k.isStr = true) :
    Position.At document ⟨v, Pointer.join p.pointer [.key k]⟩ (base ++ [k.text]) := by
  have hu : p.node.everyMap distinctTexts = true := Pointer.everyMap_locate? hd hat.located
  rw [hp] at hu
  cases k with
  | str key =>
    refine hat.join [key] (Position.At.locate?_singleton.trans ?_)
    rw [hp]
    exact lookupText_of_distinctTexts (Value.test_of_everyMap hu) hm
  | _ => cases hk

/-- A step to an item of a list is taken back. -/
theorem at_item {path : List String} {pointer : String} {items : List Value} {v : Value} {i : Nat}
    (hat : Position.At document ⟨.list items, pointer⟩ path)
    (hcounted : Value.isCounted items = true) (hi : items[i]? = some v) :
    Position.At document ⟨v, Pointer.join pointer [.index i]⟩ (path ++ [toString i]) :=
  hat.join [.index i] (Position.At.locate?_singleton.trans (Pointer.itemNamed?_toString hcounted hi))

/-- A way with clear steps leads to where its pointer does. -/
theorem «at» (hd : document.everyMap distinctTexts = true) (h : Way document p links)
    (hclear : ∀ l ∈ links, l.isClear = true) :
    ∃ base, p.At document (base ++ links.map Link.text) := by
  induction h with
  | root => exact ⟨[], at_root document⟩
  | @key p links entries k v h hp hm ih =>
    rw [List.forall_mem_append] at hclear
    obtain ⟨base, hat⟩ := ih hclear.1
    refine ⟨base, ?_⟩
    rw [List.map_append, ← List.append_assoc]
    exact at_key hd hat hp hm (hclear.2 _ List.mem_cons_self)
  | @member p links entries k whole v members i h hp hm hw hi hv ih =>
    rw [List.forall_mem_append] at hclear
    obtain ⟨base, hat⟩ := ih hclear.1
    have hwhole := at_key hd hat hp hm (hclear.2 _ List.mem_cons_self)
    have hlist := hclear.2 (.member whole i) (List.mem_cons_of_mem _ List.mem_cons_self)
    refine ⟨base, ?_⟩
    cases whole with
    | list items =>
      cases eq_of_membersOf_list hw
      have hitem := at_item hwhole hlist hi
      rw [Pointer.join_join h.pointer_ne_empty, List.append_assoc, List.append_assoc] at hitem
      rw [List.map_append]
      exact hitem
    | _ => cases hlist
  | reference h href hv =>
    obtain ⟨path, hat⟩ := Position.At.of_resolve hv
    refine ⟨path, ?_⟩
    rw [List.map_nil, List.append_nil]
    exact hat

end Way

/-- A way by keys alone. -/
def KeyWay (document : Value) (p : Position) (keys : List Value) : Prop :=
  Way document p (keys.map .key)

namespace KeyWay

variable {document : Value} {p : Position} {keys : List Value}

theorem root (document : Value) : KeyWay document ⟨document, "#"⟩ [] := Way.root

theorem key (h : KeyWay document p keys) {entries : Entries} (hp : p.node = .map entries)
    {k v : Value} (hm : (k, v) ∈ entries) :
    KeyWay document ⟨v, Pointer.join p.pointer [.key k]⟩ (keys ++ [k]) := by
  rw [KeyWay, List.map_append]
  exact Way.key h hp hm

theorem field (h : KeyWay document p keys) {key : String} {v : Value}
    (hv : p.node.get? key = some v) :
    KeyWay document ⟨v, Pointer.field p.pointer key⟩ (keys ++ [.str key]) := by
  rw [KeyWay, List.map_append]
  exact Way.field h hv

theorem follow (h : KeyWay document p keys) {node : Value} {pointer : String}
    (hf : Pointer.follow document p.node p.pointer = .ok (node, pointer)) :
    ∃ keys', KeyWay document ⟨node, pointer⟩ keys' :=
  (Way.follow h hf).elim (fun heq => ⟨keys, heq ▸ h⟩) fun h => ⟨[], h⟩

/-- In a document with text keys a way by keys leads to where its pointer does. -/
theorem «at» (hd : document.hasTextKeys = true) (h : KeyWay document p keys) :
    ∃ base, p.At document (base ++ keys.map Value.text) := by
  have hclear : ∀ l ∈ keys.map Link.key, l.isClear = true := by
    intro l hl
    obtain ⟨k, -, rfl⟩ := List.mem_map.1 hl
    exact Way.isStr_of_hasTextKeys hd h k hl
  obtain ⟨base, hat⟩ := Way.at (distinctTexts_of_hasTextKeys hd) h hclear
  refine ⟨base, ?_⟩
  rw [List.map_map] at hat
  exact hat

end KeyWay

/-! ## Schemas at the ends of ways -/

/-- A recorded schema is what stands at the end of a way that is spelled like its pointer, as a
field for mappings with text keys holds it. -/
structure Position.ReadAt (document : Value) (p : Position) (links : List Link) (node : Value) :
    Prop where
  /-- The way. -/
  way : Way document ⟨node, p.pointer⟩ links
  /-- What the field holds. -/
  held : mappingField "schema" node = .ok p.node

/-- The schema of a parameter, if there is one, stands at the end of a way. -/
def Parameter.Stands (document : Value) (p : Parameter) : Prop :=
  p.schema.isMap = true → ∃ links node, Position.ReadAt document ⟨p.schema, p.pointer⟩ links node

/-- The schema of a content type, if there is one, stands at the end of a way that ends with
`content`, a content type and `schema`. -/
def Media.Stands (document : Value) (m : Media) : Prop :=
  m.schema.isMap = true → ∃ keys key node, Position.ReadAt document ⟨m.schema, m.pointer⟩
    ((keys ++ [.str "content", key, .str "schema"]).map .key) node

/-- All schemas of some content stand at the ends of ways. -/
def Content.Stands (document : Value) (content : Content) : Prop :=
  ∀ t m, content.get? t = some m → m.Stands document

/-- All schemas of an endpoint stand at the ends of ways. -/
structure Endpoint.Stands (document : Value) (e : Endpoint) : Prop where
  /-- Those of its parameters. -/
  own : ∀ p ∈ e.parameters, p.Stands document
  /-- Those of the parameters of its path. -/
  shared : ∀ p ∈ e.pathParameters, p.Stands document
  /-- Those of the request body. -/
  body : ∀ b, e.requestBody = some b → b.content.Stands document
  /-- Those of the responses. -/
  response : ∀ status r c, e.responses.get? status = some r → r.content = some c →
    c.Stands document

/-- All schemas of a path item stand at the ends of ways. -/
structure PathItem.Stands (document : Value) (item : PathItem) : Prop where
  /-- Those of its parameters. -/
  shared : ∀ p ∈ item.parameters, p.Stands document
  /-- Those of its endpoints. -/
  endpoints : ∀ e ∈ item.endpoints, e.Stands document

section reading

variable {document : Value} {p : Position} {links : List Link} {keys : List Value}

theorem written_eq_ok {v : Value} {key : String} (h : v.written = .ok key) : v.text = key := by
  unfold Value.written at h
  split at h
  · exact Except.ok.inj h
  · cases h

/-- Pointers go on alike along segments that read alike. -/
theorem Pointer.join_congr (base : String) {segments segments' : List Segment}
    (h : segments.map Segment.text = segments'.map Segment.text) :
    join base segments = join base segments' := by
  have hescaped : (segments.map fun s => escape s.text) = segments'.map fun s => escape s.text := by
    have hmap := congrArg (List.map escape) h
    rwa [List.map_map, List.map_map] at hmap
  rw [join, join, hescaped]

theorem get?_of_isMap_schemaNode {field : Option Value} (h : (schemaNode field).isMap = true) :
    field = some (schemaNode field) := by
  cases field with
  | none => cases h
  | some v =>
    cases v with
    | map entries => rfl
    | _ => cases h

/-- The value of a schema field that holds a mapping. -/
theorem get?_of_mappingField {field : Option Value} {schema : Value}
    (h : mappingField "schema" (schemaNode field) = .ok schema) (hmap : schema.isMap = true) :
    field = some (schemaNode field) :=
  get?_of_isMap_schemaNode ((isMap_eq_of_mappingField h).symm.trans hmap)

/-! ## Content -/

theorem stands_of_readMedia (h : KeyWay document p keys) {entries : Entries}
    (hc : p.node.get? "content" = some (.map entries)) {contentType media : Value}
    (hm : (contentType, media) ∈ entries) {m : Media}
    (hr : readMedia contentType media (Pointer.field p.pointer "content") = .ok m) :
    m.Stands document := by
  unfold readMedia at hr
  obtain ⟨key, hkey, hr⟩ := bind_eq_ok.1 hr
  obtain ⟨⟨name, schema⟩, hfields, hr⟩ := bind_eq_ok.1 hr
  cases hr
  obtain ⟨-, hschema⟩ := Checked.both_eq_ok.1 (Checked.required_eq_ok.1 hfields)
  intro hmap
  have hway := Way.content h hc hm (get?_of_mappingField hschema hmap)
  have hpointer : Pointer.join (Pointer.field p.pointer "content") [key, "schema"] =
      Pointer.join p.pointer ["content", .key contentType, "schema"] := by
    rw [Pointer.field, Pointer.join_join (Way.pointer_ne_empty h)]
    refine Pointer.join_congr _ ?_
    cases written_eq_ok hkey
    rfl
  refine ⟨keys, contentType, _, ⟨?_, hschema⟩⟩
  rw [List.map_append]
  dsimp only
  rw [hpointer]
  exact hway

/-- All schemas that are read from the content of a node stand at the ends of ways. -/
theorem stands_of_readContent (h : KeyWay document p keys) {content : Content}
    (hr : readContent (p.node.get? "content") (Pointer.field p.pointer "content") = .ok content) :
    content.Stands document := by
  unfold readContent at hr
  split at hr
  · next entries hc =>
    refine foldlM_induction (P := Content.Stands document) ?_ ?_ hr
    · rintro ⟨contentType, media⟩ hm found found' hfound hstep
      obtain ⟨m, hmedia, hstep⟩ := bind_eq_ok.1 hstep
      cases hstep
      intro t m' hget
      rw [OrderedMap.get?_insert] at hget
      split at hget
      · cases hget
        exact stands_of_readMedia h hc hm hmedia
      · exact hfound t m' hget
    · intro t m hget
      cases hget
  · cases hr
    intro t m hget
    cases hget

/-- Entries that are run through are those of a mapping. -/
theorem get?_of_mem_entriesOf {field : Option Value} {entries : Entries} {e : Value × Value}
    (h : entriesOf field = .ok entries) (he : e ∈ entries) : field = some (.map entries) := by
  unfold entriesOf at h
  split at h
  · cases h
    cases he
  · next v =>
    split at h
    · cases h
      cases he
    · split at h
      · cases h
        rfl
      · cases h

/-! ## Parameters -/

/-- The schema of a parameter is at `schema`, or else in its content. -/
theorem way_of_parameterSchema (h : Way document p links) {declared schema : Value}
    {pointer : String} (hr : parameterSchema p.node p.pointer = .ok (declared, pointer))
    (hschema : mappingField "schema" declared = .ok schema) (hmap : schema.isMap = true) :
    ∃ links', Way document ⟨declared, pointer⟩ links' := by
  unfold parameterSchema at hr
  dsimp only at hr
  split at hr
  · split at hr
    · next contentType media rest hc =>
      obtain ⟨key, hkey, hr⟩ := bind_eq_ok.1 hr
      cases hr
      have hway := h.content hc List.mem_cons_self (get?_of_mappingField hschema hmap)
      have hpointer : Pointer.join p.pointer ["content", key, "schema"] =
          Pointer.join p.pointer ["content", .key contentType, "schema"] := by
        refine Pointer.join_congr _ ?_
        cases written_eq_ok hkey
        rfl
      rw [hpointer]
      exact ⟨_, hway⟩
    · cases hr
      cases hschema
      cases hmap
  · cases hr
    exact ⟨_, h.field (get?_of_mappingField hschema hmap)⟩

theorem stands_of_readParameterNode (h : Way document p links) {parameter : Parameter}
    (hr : readParameterNode p.node p.pointer = .ok (some parameter)) :
    parameter.Stands document := by
  unfold readParameterNode at hr
  split at hr
  · obtain ⟨⟨declared, pointer⟩, hdeclared, hr⟩ := bind_eq_ok.1 hr
    obtain ⟨name, -, hr⟩ := bind_eq_ok.1 hr
    obtain ⟨⟨description, schema⟩, hfields, hr⟩ := bind_eq_ok.1 hr
    cases hr
    obtain ⟨-, hschema⟩ := Checked.both_eq_ok.1 (Checked.required_eq_ok.1 hfields)
    intro hmap
    obtain ⟨links', hway⟩ := way_of_parameterSchema h hdeclared hschema hmap
    exact ⟨links', declared, hway, hschema⟩
  · cases hr

theorem follow_of_not_isMap {node : Value} {pointer : String} (h : node.isMap = false) :
    Pointer.follow document node pointer = .ok (node, pointer) := by
  have href : node.get? referenceKey = none := by
    cases node with
    | map entries => cases h
    | _ => rfl
  rw [Pointer.follow, Pointer.followFrom]
  split
  · rfl
  · next r hr =>
    rw [href] at hr
    cases hr

theorem readParameterNode_of_not_isMap {node : Value} {pointer : String}
    (h : node.isMap = false) : readParameterNode node pointer = .ok none := by
  cases node with
  | map entries => cases h
  | _ => rfl

/-- The schemas of all parameters of a node stand at the ends of ways. -/
theorem stands_of_readParameters (h : Way document p links) {key : String}
    {parameters : List Parameter}
    (hr : readParameters document (p.node.get? key) (Pointer.field p.pointer key) =
      .ok parameters) : ∀ parameter ∈ parameters, parameter.Stands document := by
  unfold readParameters at hr
  obtain ⟨members, hmembers, hr⟩ := bind_eq_ok.1 hr
  obtain ⟨found, hfound, hr⟩ := bind_eq_ok.1 hr
  cases hr
  intro parameter hparameter
  obtain ⟨⟨member, i⟩, hi, hread⟩ :=
    exists_of_mem_mapM hfound (List.reduceOption_mem_iff.1 hparameter)
  have hi := List.mem_zipIdx_iff_getElem?.1 hi
  obtain ⟨⟨node, pointer⟩, hfollow, hread⟩ := bind_eq_ok.1 hread
  cases hv : member.isMap with
  | false =>
    rw [follow_of_not_isMap hv] at hfollow
    cases hfollow
    cases (readParameterNode_of_not_isMap hv).symm.trans hread
  | true =>
    cases hp : p.node with
    | map entries =>
      rw [hp] at hmembers
      cases hwhole : Value.get? key (.map entries) with
      | none =>
        rw [hwhole] at hmembers
        cases hmembers
        cases hi
      | some whole =>
        rw [hwhole] at hmembers
        have hway := h.member hp (Value.mem_of_lookupText hwhole) hmembers hi hv
        rw [Pointer.field, Pointer.join_join h.pointer_ne_empty] at hfollow
        rcases hway.follow hfollow with heq | hway'
        · cases heq
          exact stands_of_readParameterNode hway hread
        · exact stands_of_readParameterNode hway' hread
    | _ =>
      rw [hp] at hmembers
      cases hmembers
      cases hi

/-! ## Request bodies and responses -/

/-- The content of a request body stands at the ends of ways. -/
theorem stands_of_readRequestBody (h : KeyWay document p keys) {key : String} {b : RequestBody}
    (hr : readRequestBody document (p.node.get? key) (Pointer.field p.pointer key) = .ok (some b)) :
    b.content.Stands document := by
  unfold readRequestBody at hr
  split at hr
  · cases hr
  · next hset =>
    obtain ⟨⟨node, pointer⟩, hfollow, hr⟩ := bind_eq_ok.1 hr
    cases hv : p.node.get? key with
    | none =>
      rw [hv] at hset
      exact absurd rfl hset
    | some v =>
      rw [hv] at hfollow
      obtain ⟨keys', hnode⟩ := (h.field hv).follow hfollow
      dsimp only at hr
      split at hr
      · cases hr
      · obtain ⟨content, hcontent, hr⟩ := bind_eq_ok.1 hr
        obtain ⟨description, -, hr⟩ := bind_eq_ok.1 hr
        cases hr
        exact stands_of_readContent hnode hcontent

/-- The content of a response stands at the ends of ways. -/
theorem stands_of_readResponse (h : KeyWay document p keys) {status : String} {r : Response}
    {c : Content} (hr : readResponse document status p.node p.pointer = .ok (some r))
    (hc : r.content = some c) : c.Stands document := by
  unfold readResponse at hr
  obtain ⟨⟨node, pointer⟩, hfollow, hr⟩ := bind_eq_ok.1 hr
  obtain ⟨keys', hnode⟩ := h.follow hfollow
  dsimp only at hr
  split at hr
  · cases hr
  · split at hr
    · obtain ⟨content, hcontent, hr⟩ := bind_eq_ok.1 hr
      obtain ⟨description, -, hr⟩ := bind_eq_ok.1 hr
      cases hcontent
      cases hr
      cases hc
    · obtain ⟨content, hcontent, hr⟩ := bind_eq_ok.1 hr
      obtain ⟨description, -, hr⟩ := bind_eq_ok.1 hr
      obtain ⟨c', hc', rfl⟩ := map_eq_ok.1 hcontent
      cases hr
      cases hc
      exact stands_of_readContent hnode hc'

/-- The contents of all responses of a node stand at the ends of ways. -/
theorem stands_of_readResponses (h : KeyWay document p keys) {key : String}
    {responses : OrderedMap String Response}
    (hr : readResponses document (p.node.get? key) (Pointer.field p.pointer key) = .ok responses) :
    ∀ status r c, responses.get? status = some r → r.content = some c → c.Stands document := by
  unfold readResponses at hr
  obtain ⟨entries, hentries, hr⟩ := bind_eq_ok.1 hr
  refine foldlM_induction (P := fun responses : OrderedMap String Response =>
    ∀ status r c, responses.get? status = some r → r.content = some c → c.Stands document)
    ?_ ?_ hr
  · rintro ⟨status, member⟩ hm found found' hfound hstep
    have hfield : p.node.get? key = some (.map entries) := get?_of_mem_entriesOf hentries hm
    have hmember := (h.field hfield).key rfl hm
    obtain ⟨status', hstatus, hstep⟩ := bind_eq_ok.1 hstep
    obtain ⟨r?, hread, hstep⟩ := bind_eq_ok.1 hstep
    have hpointer : Pointer.field (Pointer.field p.pointer key) status' =
        Pointer.join (Pointer.field p.pointer key) [.key status] := by
      refine Pointer.join_congr _ ?_
      cases written_eq_ok hstatus
      rfl
    rw [hpointer] at hread
    cases r? with
    | none =>
      cases hstep
      exact hfound
    | some r =>
      cases hstep
      intro status r' c hget hc
      rw [OrderedMap.get?_insert] at hget
      split at hget
      · cases hget
        exact stands_of_readResponse hmember hread hc
      · exact hfound status r' c hget hc
  · intro status r c hget
    cases hget

/-! ## Endpoints -/

theorem stands_of_readEndpoint (h : KeyWay document p keys) {key : Value}
    {shared : List Parameter} (hshared : ∀ parameter ∈ shared, parameter.Stands document)
    {method : Method} {e : Endpoint}
    (hr : readEndpoint document key shared method p.node p.pointer = .ok e) :
    e.Stands document := by
  unfold readEndpoint at hr
  obtain ⟨tagMembers, -, hr⟩ := bind_eq_ok.1 hr
  obtain ⟨tags, -, hr⟩ := bind_eq_ok.1 hr
  obtain ⟨parameters, hparameters, hr⟩ := bind_eq_ok.1 hr
  obtain ⟨requestBody, hbody, hr⟩ := bind_eq_ok.1 hr
  obtain ⟨responses, hresponses, hr⟩ := bind_eq_ok.1 hr
  obtain ⟨externalDocs, -, hr⟩ := bind_eq_ok.1 hr
  obtain ⟨⟨template, operationId, summary, description⟩, -, hr⟩ := bind_eq_ok.1 hr
  cases hr
  refine ⟨stands_of_readParameters h hparameters, hshared, ?_, stands_of_readResponses h hresponses⟩
  rintro b rfl
  exact stands_of_readRequestBody h hbody

theorem stands_of_readMethod (h : KeyWay document p keys) {key : Value} {shared : List Parameter}
    (hshared : ∀ parameter ∈ shared, parameter.Stands document) {method : Method} {e : Endpoint}
    (hr : readMethod document key p.node shared p.pointer method = .ok (some e)) :
    e.Stands document := by
  unfold readMethod at hr
  split at hr
  · next entries hv =>
    obtain ⟨e', he, heq⟩ := map_eq_ok.1 hr
    cases heq
    exact stands_of_readEndpoint (h.field hv) hshared he
  · cases hr

theorem stands_of_readPathItem (h : KeyWay document p keys) {key : Value} {item : PathItem}
    (hr : readPathItem document key p.node p.pointer = .ok item) : item.Stands document := by
  unfold readPathItem at hr
  obtain ⟨parameters, hparameters, hr⟩ := bind_eq_ok.1 hr
  obtain ⟨endpoints, hendpoints, hr⟩ := bind_eq_ok.1 hr
  obtain ⟨template, -, hr⟩ := bind_eq_ok.1 hr
  cases hr
  have hshared := stands_of_readParameters h hparameters
  refine ⟨hshared, fun e he => ?_⟩
  obtain ⟨method, -, hmethod⟩ := exists_of_mem_mapM hendpoints (List.reduceOption_mem_iff.1 he)
  exact stands_of_readMethod h hshared hmethod

/-! ## Descriptions -/

/-- The schemas of all path items that are read stand at the ends of ways. -/
theorem stands_of_readPaths {paths : OrderedMap String PathItem}
    (hr : readPaths document = .ok paths) :
    ∀ template item, paths.get? template = some item → item.Stands document := by
  unfold readPaths at hr
  obtain ⟨entries, hentries, hr⟩ := bind_eq_ok.1 hr
  refine foldlM_induction (P := fun paths : OrderedMap String PathItem =>
    ∀ template item, paths.get? template = some item → item.Stands document) ?_ ?_ hr
  · rintro ⟨key, member⟩ hm found found' hfound hstep
    have hfield : document.get? "paths" = some (.map entries) := get?_of_mem_entriesOf hentries hm
    have hmember := ((KeyWay.root document).field hfield).key rfl hm
    obtain ⟨template', htemplate, hstep⟩ := bind_eq_ok.1 hstep
    obtain ⟨⟨node, pointer⟩, hfollow, hstep⟩ := bind_eq_ok.1 hstep
    have hpointer : Pointer.join "#/paths" [template'] = Pointer.join "#/paths" [.key key] := by
      refine Pointer.join_congr _ ?_
      cases written_eq_ok htemplate
      rfl
    rw [hpointer] at hfollow
    obtain ⟨keys', hnode⟩ := hmember.follow hfollow
    dsimp only at hstep
    split at hstep
    · cases hstep
      exact hfound
    · obtain ⟨item, hitem, hstep⟩ := bind_eq_ok.1 hstep
      cases hstep
      intro template item' hget
      rw [OrderedMap.get?_insert] at hget
      split at hget
      · cases hget
        exact stands_of_readPathItem hnode hitem
      · exact hfound template item' hget
  · intro template item hget
    cases hget

/-- The schemas of a description that is read stand at the ends of ways in the document. -/
theorem stands_of_readApi {version : String} {api : Api}
    (hr : readApi document version = .ok api) :
    ∀ item ∈ api.paths.values, item.Stands document := by
  unfold readApi at hr
  obtain ⟨paths, hpaths, hr⟩ := bind_eq_ok.1 hr
  obtain ⟨info, -, hr⟩ := bind_eq_ok.1 hr
  obtain ⟨document', -, hr⟩ := bind_eq_ok.1 hr
  cases hr
  intro item hitem
  obtain ⟨template, hget⟩ := OrderedMap.mem_values_iff.1 hitem
  exact stands_of_readPaths hpaths template item hget

end reading

end ClientPlan
