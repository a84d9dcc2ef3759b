import ClientPlan.Proofs.Api.Ways
import ClientPlan.Proofs.Document.Agreement

/-!
# Reading documents that agree

What is read from a value depends on the document only through the references that are followed, so
it is the same in two documents that agree on them.  So two such documents have the same paths if
they have the same value at `paths` (`readPaths_eq`).
-/

set_option autoImplicit false

namespace ClientPlan

/-! ## Following references -/

/-- One step along a chain of references. -/
theorem Pointer.followFrom_eq (document : Value) (seen : List String) (node : Value)
    (pointer : String) :
    followFrom document seen node pointer =
      (match node.get? referenceKey with
      | none => .ok (node, pointer)
      | some r => do
        let ref ← r.reference
        if ref ∈ seen then .error (.document (.circularReference ref))
        else do
          let target ← (resolve document ref).mapError .document
          followFrom document (ref :: seen) target ref) := by
  rw [followFrom]
  split
  · next hr => rw [hr]
  · next r hr =>
    rw [hr]
    dsimp only
    split
    · next e he =>
      rw [he]
      rfl
    · next ref href =>
      rw [href]
      dsimp only [bind, Except.bind]
      split
      · rfl
      · split
        · next e he =>
          rw [he]
          rfl
        · next target htarget =>
          rw [htarget]
          rfl

section

variable {within : String → Bool} {document document' : Value}
  (h : AgreeOn within document document')

include h

/-- A chain of references leads to the same in both documents. -/
theorem follow_eq {node : Value} (hv : node.isMap = true → node.RefersWithin within)
    (pointer : String) :
    Pointer.follow document' node pointer = Pointer.follow document node pointer := by
  have hchain : ∀ seen node pointer, (node.isMap = true → node.RefersWithin within) →
      Pointer.followFrom document' seen node pointer =
        Pointer.followFrom document seen node pointer := by
    intro seen node pointer hv
    fun_induction Pointer.followFrom document seen node pointer with
    | case1 seen node pointer hr => rw [Pointer.followFrom_eq, hr]
    | case2 seen node pointer r hr e he =>
      rw [Pointer.followFrom_eq, hr]
      dsimp only
      rw [he]
      rfl
    | case3 seen node pointer r hr ref href hseen =>
      rw [Pointer.followFrom_eq, hr]
      dsimp only
      rw [href]
      exact if_pos hseen
    | case4 seen node pointer r hr ref href hseen e he =>
      have hnode := hv (Value.isMap_of_get? hr)
      rw [Pointer.followFrom_eq, hr]
      dsimp only
      rw [href]
      refine (if_neg hseen).trans ?_
      rw [h.resolve_of_get? hnode (Value.eq_str_of_reference href ▸ hr), he]
      rfl
    | case5 seen node pointer r hr ref href hseen target htarget ih =>
      have hnode := hv (Value.isMap_of_get? hr)
      have hr' := Value.eq_str_of_reference href ▸ hr
      rw [Pointer.followFrom_eq, hr]
      dsimp only
      rw [href]
      refine (if_neg hseen).trans ?_
      rw [h.resolve_of_get? hnode hr', htarget]
      exact ih fun _ => h.closed_of_get? hnode hr' htarget
  exact hchain [] node pointer hv

/-- Where a chain of references ends no others are met. -/
theorem refersWithin_of_follow {node : Value} (hv : node.isMap = true → node.RefersWithin within)
    {pointer pointer' : String} {node' : Value}
    (hf : Pointer.follow document node pointer = .ok (node', pointer')) :
    node'.isMap = true → node'.RefersWithin within := by
  have hchain : ∀ seen node pointer, (node.isMap = true → node.RefersWithin within) →
      Pointer.followFrom document seen node pointer = .ok (node', pointer') →
        node'.isMap = true → node'.RefersWithin within := by
    intro seen node pointer hv hfrom
    fun_induction Pointer.followFrom document seen node pointer with
    | case1 seen node pointer hr =>
      cases hfrom
      exact hv
    | case2 seen node pointer r hr e he => cases hfrom
    | case3 seen node pointer r hr ref href hseen => cases hfrom
    | case4 seen node pointer r hr ref href hseen e he => cases hfrom
    | case5 seen node pointer r hr ref href hseen target htarget ih =>
      have hnode := hv (Value.isMap_of_get? hr)
      exact ih (fun _ => h.closed_of_get? hnode (Value.eq_str_of_reference href ▸ hr) htarget) hfrom
  exact hchain [] node pointer hv hf

/-! ## Parts of an endpoint -/

omit h in
/-- Mappings among the members of a value refer within what the value does. -/
theorem refersWithin_of_membersOf {field : Option Value}
    (hfield : ∀ v, field = some v → v.RefersWithin within) {members : List Value}
    (hm : membersOf field = .ok members) :
    ∀ m ∈ members, m.isMap = true → m.RefersWithin within := by
  intro m hmem hmap
  cases field with
  | none =>
    cases hm
    cases hmem
  | some whole =>
    have hwhole := hfield whole rfl
    rcases mem_items_of_membersOf hm hmem hmap with
      ⟨items, hitem, rfl | rfl | rfl⟩ | ⟨entries, w, rfl, hkey⟩
    · exact Value.everyMap_of_mem hwhole hitem
    · exact Value.everyMap_of_mem hwhole hitem
    · exact Value.everyMap_of_mem hwhole hitem
    · rw [(refersWithin_iff.1 (Value.test_of_everyMap hwhole) _ hkey).1] at hmap
      cases hmap

theorem readParameters_eq {field : Option Value}
    (hfield : ∀ v, field = some v → v.RefersWithin within) (pointer : String) :
    readParameters document' field pointer = readParameters document field pointer := by
  refine bind_congr_ok fun members hmembers => congrArg (· >>= _) (mapM_congr ?_)
  rintro ⟨m, i⟩ hm
  have hm := List.mem_of_getElem? (List.mem_zipIdx_iff_getElem?.1 hm)
  dsimp only
  rw [readParameter, readParameter,
    follow_eq h (refersWithin_of_membersOf hfield hmembers m hm)]

theorem readRequestBody_eq {field : Option Value}
    (hfield : ∀ v, field = some v → v.RefersWithin within) (pointer : String) :
    readRequestBody document' field pointer = readRequestBody document field pointer := by
  have hnode : (field.getD .null).isMap = true → (field.getD .null).RefersWithin within := by
    intro hmap
    cases field with
    | none => cases hmap
    | some v => exact hfield v rfl
  rw [readRequestBody, readRequestBody, follow_eq h hnode]

theorem readResponse_eq {member : Value} (hm : member.RefersWithin within)
    (status pointer : String) :
    readResponse document' status member pointer = readResponse document status member pointer := by
  rw [readResponse, readResponse, follow_eq h fun _ => hm]

theorem readResponses_eq {field : Option Value}
    (hfield : ∀ v, field = some v → v.RefersWithin within) (pointer : String) :
    readResponses document' field pointer = readResponses document field pointer := by
  refine bind_congr_ok fun entries hentries => foldlM_congr ?_ _
  rintro ⟨status, member⟩ hm found
  have hmember : member.RefersWithin within :=
    (hfield _ (get?_of_mem_entriesOf hentries hm)).entry hm
  dsimp only
  refine bind_congr_ok fun status' _ => ?_
  rw [readResponse_eq h hmember]

/-! ## Endpoints -/

theorem readEndpoint_eq {node : Value} (hv : node.RefersWithin within) (path : Value)
    (shared : List Parameter) (method : Method) (pointer : String) :
    readEndpoint document' path shared method node pointer =
      readEndpoint document path shared method node pointer := by
  rw [readEndpoint, readEndpoint, readParameters_eq h fun _ => hv.get?,
    readRequestBody_eq h fun _ => hv.get?, readResponses_eq h fun _ => hv.get?]

theorem readMethod_eq {item : Value} (hv : item.RefersWithin within) (path : Value)
    (shared : List Parameter) (pointer : String) (method : Method) :
    readMethod document' path item shared pointer method =
      readMethod document path item shared pointer method := by
  unfold readMethod
  split
  · next entries hentries => rw [readEndpoint_eq h (hv.get? hentries)]
  · rfl

theorem readPathItem_eq {item : Value} (hv : item.RefersWithin within) (path : Value)
    (pointer : String) :
    readPathItem document' path item pointer = readPathItem document path item pointer := by
  rw [readPathItem, readPathItem, readParameters_eq h fun _ => hv.get?]
  refine bind_congr_ok fun parameters _ => ?_
  rw [mapM_congr fun method _ => readMethod_eq h hv path parameters pointer method]

/-! ## Descriptions -/

theorem readPaths_eq (hd : document.RefersWithin within)
    (hpaths : document'.get? "paths" = document.get? "paths") :
    readPaths document' = readPaths document := by
  rw [readPaths, readPaths, hpaths]
  refine bind_congr_ok fun entries hentries => foldlM_congr ?_ _
  rintro ⟨path, member⟩ hm found
  have hmember : member.isMap = true → member.RefersWithin within := fun _ =>
    (hd.get? (get?_of_mem_entriesOf hentries hm)).entry hm
  dsimp only
  refine bind_congr_ok fun template _ => ?_
  rw [follow_eq h hmember]
  refine bind_congr_ok ?_
  rintro ⟨item, pointer⟩ hfollow
  dsimp only
  split
  · rfl
  · next hmap =>
    rw [readPathItem_eq h (refersWithin_of_follow h hmember hfollow (by simpa using hmap))]

end

end ClientPlan
