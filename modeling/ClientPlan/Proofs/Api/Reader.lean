import ClientPlan.Proofs.Api.Ways

/-!
# Where the schemas of a description stand

A description that is read from a document with text keys keeps the document, and every schema in
the request body or a response of one of its endpoints is located at its pointer, at the end of
which stand `content`, a content type and `schema`: all keys on the way to it are clear.
-/

set_option autoImplicit false

namespace ClientPlan

variable {document : Value}

/-- The schema of a content type is located, if there is one. -/
def Media.Located (document : Value) (m : Media) : Prop :=
  m.schema.isMap = true → ∃ (path : List String) (key : String),
    Position.At document ⟨m.schema, m.pointer⟩ (path ++ ["content", key, "schema"])

/-- All schemas of some content are located. -/
def Content.Located (document : Value) (content : Content) : Prop :=
  ∀ t m, content.get? t = some m → m.Located document

/-- All schemas of an endpoint are located. -/
structure Endpoint.Located (document : Value) (e : Endpoint) : Prop where
  /-- Those of the request body. -/
  body : ∀ b, e.requestBody = some b → b.content.Located document
  /-- Those of the responses. -/
  response : ∀ status r c, e.responses.get? status = some r → r.content = some c →
    c.Located document

/-- At the end of a way by keys of a document with text keys the schema is located. -/
theorem Media.Stands.located (hd : document.hasTextKeys = true) {m : Media}
    (h : m.Stands document) : m.Located document := by
  intro hmap
  obtain ⟨keys, key, node, hway, hheld⟩ := h hmap
  obtain ⟨base, hat⟩ := KeyWay.at hd hway
  rw [mappingField_of_hasTextKeys (hat.hasTextKeys hd)] at hheld
  cases hheld
  refine ⟨base ++ keys.map Value.text, key.text, ?_⟩
  rw [List.map_append, ← List.append_assoc] at hat
  exact hat

theorem Content.Stands.located (hd : document.hasTextKeys = true) {content : Content}
    (h : content.Stands document) : content.Located document := fun t m hm => (h t m hm).located hd

/-- A description keeps the document as a field holds it. -/
theorem document_of_readApi {version : String} {api : Api}
    (hr : readApi document version = .ok api) : mappingField "raw" document = .ok api.document := by
  obtain ⟨paths, -, hr⟩ := bind_eq_ok.1 hr
  obtain ⟨info, -, hr⟩ := bind_eq_ok.1 hr
  obtain ⟨document', hdocument, hr⟩ := bind_eq_ok.1 hr
  cases hr
  exact Checked.required_eq_ok.1 hdocument

/-- A description that is read from a document with text keys keeps the document and locates the
schemas of its endpoints. -/
theorem located_of_readApi (hd : document.hasTextKeys = true) {version : String} {api : Api}
    (hr : readApi document version = .ok api) :
    api.document = document ∧ ∀ e ∈ api.endpoints, e.Located document := by
  have hdocument := document_of_readApi hr
  rw [mappingField_of_hasTextKeys hd] at hdocument
  refine ⟨(Except.ok.inj hdocument).symm, fun e he => ?_⟩
  obtain ⟨item, hitem, he⟩ := List.mem_flatMap.1 he
  have he := (stands_of_readApi hr item hitem).endpoints e he
  refine ⟨fun b hb => Content.Stands.located hd (he.body b hb), fun status r c hr hc => ?_⟩
  exact Content.Stands.located hd (he.response status r c hr hc)

end ClientPlan
