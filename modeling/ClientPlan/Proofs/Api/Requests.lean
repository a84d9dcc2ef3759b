import ClientPlan.Proofs.Api.Reader
import Mathlib.Data.List.Forall2

/-!
# The requests of a document

`requests` lists the method entries of the path items of a document without reading them: path by
path in the order of the document, and method by method in the order of methods.  The endpoints of a
description that is read are these requests, one for one (`forall₂_endpoints`).

Paths are distinguished by the text of their keys.  Of several keys with one text, which are octets
but for one, the first gives the position and the last gives the item.
-/

set_option autoImplicit false

namespace ClientPlan

/-! ## Requests -/

/-- A method entry of a path item. -/
structure MethodEntry where
  /-- The path template. -/
  path : String
  /-- The method. -/
  method : Method
  /-- The entry. -/
  node : Value

/-- The method entry of a path item, if it is a mapping. -/
def methodEntryAt? (path : String) (item : Value) (method : Method) : Option MethodEntry :=
  match item.get? method.name with
  | some (.map entries) => some ⟨path, method, .map entries⟩
  | _ => none

/-- The method entries of a path item that are mappings, in the order of methods. -/
def methodEntriesAt (path : String) (item : Value) : List MethodEntry :=
  Method.all.filterMap (methodEntryAt? path item)

/-- The path item at an entry of the paths, references followed, with the text of its key. -/
def pathItemAt? (document : Value) (entry : Value × Value) : Option (String × Value) := do
  let path ← (textField "path" entry.1).toOption
  let (item, _) ← (Pointer.follow document entry.2 (Pointer.join "#/paths" [.key entry.1])).toOption
  if item.isMap then some (path, item) else none

/-- The entries of the paths of a document. -/
def pathEntries (document : Value) : Entries :=
  match document.get? "paths" with
  | some (.map entries) => entries
  | _ => []

/-- The entries that are run through are the entries of the paths. -/
theorem pathEntries_eq {document : Value} {entries : Entries}
    (h : entriesOf (document.get? "paths") = .ok entries) : pathEntries document = entries := by
  unfold pathEntries
  cases entries with
  | cons e r => rw [get?_of_mem_entriesOf h List.mem_cons_self]
  | nil =>
    split
    · next entries hget =>
      rw [hget] at h
      cases entries with
      | nil => rfl
      | cons e r => cases h
    · rfl

/-- The path items of a document in order, with the texts of their keys. -/
def pathItems (document : Value) : List (String × Value) :=
  (pathEntries document).filterMap (pathItemAt? document)

/-- The method entries of all path items of a document. -/
def methodEntries (document : Value) : List MethodEntry :=
  (pathItems document).flatMap fun entry => methodEntriesAt entry.1 entry.2

/-- The requests of a document: the method entries of its path items, where of several path items
under one text the last one counts, in the position of the first. -/
def requests (document : Value) : List MethodEntry :=
  (OrderedMap.ofList (pathItems document)).entries.flatMap fun entry =>
    methodEntriesAt entry.1 entry.2

/-! ## Endpoints that are read -/

/-- An endpoint is read from a method entry. -/
structure Endpoint.ReadFrom (r : MethodEntry) (e : Endpoint) : Prop where
  /-- It has the path. -/
  path : e.path = r.path
  /-- It has the method. -/
  method : e.method = r.method
  /-- Its id is the text at `operationId`, if there is one. -/
  operationId : optionalTextField "operation_id" (r.node.get? "operationId") = .ok e.operationId
  /-- Its tags are the texts of the members of `tags`. -/
  tags : ∃ members, membersOf (r.node.get? "tags") = .ok members ∧ e.tags = members.map Value.text

theorem eq_map_text_of_mapM_written {members : List Value} {texts : List String}
    (h : members.mapM Value.written = .ok texts) : texts = members.map Value.text := by
  induction members generalizing texts with
  | nil =>
    cases h
    rfl
  | cons v members ih =>
    rw [List.mapM_cons] at h
    obtain ⟨text, htext, h⟩ := bind_eq_ok.1 h
    obtain ⟨texts', htexts, h⟩ := bind_eq_ok.1 h
    cases h
    rw [List.map_cons, written_eq_ok htext, ih htexts]

theorem readFrom_of_readEndpoint {root key node : Value} {shared : List Parameter}
    {method : Method} {pointer path : String} {e : Endpoint}
    (hpath : textField "path" key = .ok path)
    (h : readEndpoint root key shared method node pointer = .ok e) :
    e.ReadFrom ⟨path, method, node⟩ := by
  unfold readEndpoint at h
  obtain ⟨members, hmembers, h⟩ := bind_eq_ok.1 h
  obtain ⟨tags, htags, h⟩ := bind_eq_ok.1 h
  obtain ⟨parameters, -, h⟩ := bind_eq_ok.1 h
  obtain ⟨requestBody, -, h⟩ := bind_eq_ok.1 h
  obtain ⟨responses, -, h⟩ := bind_eq_ok.1 h
  obtain ⟨externalDocs, -, h⟩ := bind_eq_ok.1 h
  obtain ⟨⟨path', operationId, summary, description⟩, htexts, h⟩ := bind_eq_ok.1 h
  cases h
  obtain ⟨hpath', htexts⟩ := Checked.both_eq_ok.1 (Checked.required_eq_ok.1 htexts)
  obtain ⟨hid, -⟩ := Checked.both_eq_ok.1 htexts
  exact ⟨Except.ok.inj (hpath'.symm.trans hpath), rfl, hid, members, hmembers,
    eq_map_text_of_mapM_written htags⟩

/-- An endpoint is read at a method exactly if there is a method entry. -/
theorem rel_readMethod {root key item : Value} {shared : List Parameter} {method : Method}
    {pointer path : String} {e? : Option Endpoint} (hpath : textField "path" key = .ok path)
    (h : readMethod root key item shared pointer method = .ok e?) :
    Option.Rel Endpoint.ReadFrom (methodEntryAt? path item method) e? := by
  unfold readMethod at h
  split at h
  · next entries hentries =>
    obtain ⟨e, he, rfl⟩ := map_eq_ok.1 h
    rw [methodEntryAt?, hentries]
    exact .some (readFrom_of_readEndpoint hpath he)
  · next hnone =>
    cases h
    unfold methodEntryAt?
    split
    · next entries hentries => exact absurd hentries (hnone entries)
    · exact .none

/-- The results that a run over a list keeps belong to those items that have a counterpart. -/
theorem forall₂_reduceOption {ε ι α β : Type} {R : α → β → Prop} {f : ι → Option α}
    {g : ι → Except ε (Option β)} {l : List ι} {results : List (Option β)}
    (hrel : ∀ i b?, g i = .ok b? → Option.Rel R (f i) b?) (h : l.mapM g = .ok results) :
    List.Forall₂ R (l.filterMap f) results.reduceOption := by
  induction l generalizing results with
  | nil =>
    cases h
    exact .nil
  | cons i l ih =>
    rw [List.mapM_cons] at h
    obtain ⟨b?, hb, h⟩ := bind_eq_ok.1 h
    obtain ⟨results', hresults, h⟩ := bind_eq_ok.1 h
    cases h
    have hi := hrel i b? hb
    cases hf : f i with
    | none =>
      rw [hf] at hi
      cases hi
      rw [List.filterMap_cons_none hf, List.reduceOption_cons_of_none]
      exact ih hresults
    | some a =>
      rw [hf] at hi
      cases hi with
      | some hab =>
        rw [List.filterMap_cons_some hf, List.reduceOption_cons_of_some]
        exact .cons hab (ih hresults)

/-- The endpoints of a path item are its method entries. -/
theorem forall₂_of_readPathItem {root key item : Value} {pointer : String} {pathItem : PathItem}
    (h : readPathItem root key item pointer = .ok pathItem) :
    textField "path" key = .ok pathItem.path ∧
      List.Forall₂ Endpoint.ReadFrom (methodEntriesAt pathItem.path item) pathItem.endpoints := by
  unfold readPathItem at h
  obtain ⟨parameters, -, h⟩ := bind_eq_ok.1 h
  obtain ⟨endpoints, hendpoints, h⟩ := bind_eq_ok.1 h
  obtain ⟨path, hpath, h⟩ := bind_eq_ok.1 h
  cases h
  have hpath := Checked.required_eq_ok.1 hpath
  exact ⟨hpath, forall₂_reduceOption (fun method e? he => rel_readMethod hpath he) hendpoints⟩

/-! ## Paths that are read -/

/-- A path item is read from an item of the document under the same path. -/
def ReadUnder (entry : String × Value) (read : String × PathItem) : Prop :=
  entry.1 = read.1 ∧
    List.Forall₂ Endpoint.ReadFrom (methodEntriesAt entry.1 entry.2) read.2.endpoints

/-- Entries that belong together still do once one more has been inserted on either side. -/
theorem forall₂_insertEntry {κ α β : Type} [DecidableEq κ] {R : κ × α → κ × β → Prop}
    (hkey : ∀ e e', R e e' → e.1 = e'.1) {k : κ} {v : α} {w : β} (hv : R (k, v) (k, w))
    {l : List (κ × α)} {l' : List (κ × β)} (h : List.Forall₂ R l l') :
    List.Forall₂ R (OrderedMap.insertEntry k v l) (OrderedMap.insertEntry k w l') := by
  induction h with
  | nil => exact .cons hv .nil
  | @cons e e' l l' he hl ih =>
    obtain ⟨k₁, v₁⟩ := e
    obtain ⟨k₂, w₂⟩ := e'
    obtain rfl : k₁ = k₂ := hkey _ _ he
    rw [OrderedMap.insertEntry, OrderedMap.insertEntry]
    by_cases hk : k₁ = k
    · subst hk
      rw [if_pos rfl, if_pos rfl]
      exact .cons hv hl
    · rw [if_neg hk, if_neg hk]
      exact .cons he ih

/-- A map that is read entry by entry, where each entry of the source either counts for nothing or
inserts what belongs to it, belongs to the map that is made from the source. -/
theorem forall₂_foldlM_insert {ε ι κ α β : Type} [DecidableEq κ] {R : κ × α → κ × β → Prop}
    (hkey : ∀ e e', R e e' → e.1 = e'.1) {f : ι → Option (κ × α)}
    {step : OrderedMap κ β → ι → Except ε (OrderedMap κ β)}
    (hstep : ∀ i read read', step read i = .ok read' → f i = none ∧ read' = read ∨
      ∃ k v w, f i = some (k, v) ∧ read' = read.insert k w ∧ R (k, v) (k, w)) {l : List ι}
    {items : OrderedMap κ α} {read read' : OrderedMap κ β}
    (hread : List.Forall₂ R items.entries read.entries) (h : l.foldlM step read = .ok read') :
    List.Forall₂ R ((l.filterMap f).foldl (fun m e => m.insert e.1 e.2) items).entries
      read'.entries := by
  induction l generalizing items read with
  | nil =>
    cases h
    exact hread
  | cons i l ih =>
    rw [List.foldlM_cons, bind_eq_ok] at h
    obtain ⟨read₁, hread₁, h⟩ := h
    rcases hstep i read read₁ hread₁ with ⟨hnone, rfl⟩ | ⟨k, v, w, hsome, rfl, hv⟩
    · rw [List.filterMap_cons_none hnone]
      exact ih hread h
    · have hnext : List.Forall₂ R (items.insert k v).entries (read.insert k w).entries :=
        forall₂_insertEntry hkey hv hread
      rw [List.filterMap_cons_some hsome, List.foldl_cons]
      exact ih hnext h

/-- The path items that are read are those of the document. -/
theorem forall₂_of_readPaths {document : Value} {paths : OrderedMap String PathItem}
    (h : readPaths document = .ok paths) :
    List.Forall₂ ReadUnder (OrderedMap.ofList (pathItems document)).entries paths.entries := by
  unfold readPaths at h
  obtain ⟨entries, hentries, h⟩ := bind_eq_ok.1 h
  rw [pathItems, pathEntries_eq hentries, OrderedMap.ofList]
  refine forall₂_foldlM_insert (fun _ _ he => he.1) ?_ .nil h
  rintro ⟨key, member⟩ read read' hread
  obtain ⟨text, htext, hread⟩ := bind_eq_ok.1 hread
  cases written_eq_ok htext
  obtain ⟨⟨item, pointer⟩, hfollow, hread⟩ := bind_eq_ok.1 hread
  have hfollow : Pointer.follow document member (Pointer.join "#/paths" [.key key]) =
    .ok (item, pointer) := hfollow
  unfold pathItemAt?
  rw [hfollow]
  dsimp only at hread
  split at hread
  · next hmap =>
    cases hread
    refine .inl ⟨?_, rfl⟩
    cases (textField "path" key).toOption with
    | none => rfl
    | some path => exact if_neg (by simpa using hmap)
  · next hmap =>
    obtain ⟨pathItem, hitem, hread⟩ := bind_eq_ok.1 hread
    cases hread
    obtain ⟨hpath, hendpoints⟩ := forall₂_of_readPathItem hitem
    rw [toOption_eq_some_iff.2 hpath]
    exact .inr ⟨_, _, _, if_pos (by simpa using hmap), rfl, rfl, hendpoints⟩

/-- The endpoints of a description that is read are the requests of the document, one for one and in
order. -/
theorem forall₂_endpoints {document : Value} {version : String} {api : Api}
    (h : readApi document version = .ok api) :
    List.Forall₂ Endpoint.ReadFrom (requests document) api.endpoints := by
  unfold readApi at h
  obtain ⟨paths, hpaths, h⟩ := bind_eq_ok.1 h
  obtain ⟨info, -, h⟩ := bind_eq_ok.1 h
  obtain ⟨document', -, h⟩ := bind_eq_ok.1 h
  cases h
  have hentries : Api.endpoints ⟨info, version, paths, document'⟩ =
      paths.entries.flatMap fun read => read.2.endpoints := by
    rw [Api.endpoints, OrderedMap.values, List.flatMap_map]
  rw [hentries, requests]
  exact List.rel_flatMap (forall₂_of_readPaths hpaths) fun _ _ he => he.2

end ClientPlan
