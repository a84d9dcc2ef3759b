import ClientPlan.Config.Layers
import ClientPlan.Proofs.Pointer.Location
import ClientPlan.Proofs.Workspace.Making
import Mathlib.Data.List.Nodup
import Mathlib.Data.List.Perm.Subperm

/-!
# Replacing a file leaves no trace of what fails

A file is replaced in steps, and each may fail after others have changed the tree: because of what is
in the tree, or because the device refuses a call.  The directories above it may be made in part only.
The temporary file is made where there was nothing (`node?_freePlace`).  It may be written only in part
(`of_writeOut_eq_error`), but it is not there any more in the end.  So there are two outcomes only
(`AllOrNothing`): the file has its new content and all other files are as they were, or all files are.
-/

set_option autoImplicit false

namespace ClientPlan

/-! ## Room for a file -/

namespace FileTree

variable {t : FileTree} {l : Place} {directory p : Path}

end FileTree

namespace FileAction

variable {device : Device} {t t' : FileTree} {directory p : Path} {octets : List Nat} {l : Place}

/-! ## The temporary file -/

/-- Temporary files with different numbers have different names. -/
theorem temporaryName_injective {name : String} {n m : Nat}
    (h : temporaryName name n = temporaryName name m) : n = m := by
  have hlist := congrArg String.toList h
  simp only [temporaryName, String.toList_append] at hlist
  exact Text.eq_of_toString_eq
    (String.toList_inj.1 (List.append_cancel_left (List.append_cancel_right hlist)))

/-- There are more names for a temporary file than things in the tree, so one of them is free. -/
theorem exists_free (t : FileTree) (l : Place) (name : String) :
    ∃ n < t.nodes.size + 1, t.node? (l ++ [temporaryName name n]) = none := by
  by_contra hnone
  push Not at hnone
  have hmem : ∀ n < t.nodes.size + 1, l ++ [temporaryName name n] ∈ t.nodes.keys := by
    intro n hn
    have hnode := hnone n hn
    rw [FileTree.node?, if_neg (by simp)] at hnode
    rw [← OrderedMap.contains_iff, OrderedMap.contains]
    exact Option.isSome_iff_ne_none.2 hnode
  have hdistinct : ((List.range (t.nodes.size + 1)).map fun n =>
      l ++ [temporaryName name n]).Nodup := by
    have hinjective : Function.Injective fun n => l ++ [temporaryName name n] := fun n m h =>
      temporaryName_injective (List.singleton_inj.1 (List.append_cancel_left h))
    exact List.nodup_range.map hinjective
  have hsubset : ((List.range (t.nodes.size + 1)).map fun n =>
      l ++ [temporaryName name n]) ⊆ t.nodes.keys := by
    intro place hplace
    obtain ⟨n, hn, rfl⟩ := List.mem_map.1 hplace
    exact hmem n (List.mem_range.1 hn)
  have hlength := (hdistinct.subperm hsubset).length_le
  rw [List.length_map, List.length_range, OrderedMap.keys, List.length_map] at hlength
  exact absurd hlength (Nat.not_succ_le_self _)

/-- Where the temporary file is made, there was nothing. -/
theorem node?_freePlace {name : String} : t.node? (freePlace t l name) = none := by
  obtain ⟨n, hn, hfree⟩ := exists_free t l name
  rw [freePlace]
  cases hfound : (List.range (t.nodes.size + 1)).find? fun n =>
      (t.node? (l ++ [temporaryName name n])).isNone with
  | none =>
    have := List.find?_eq_none.1 hfound n (List.mem_range.2 hn)
    rw [hfree] at this
    exact absurd rfl this
  | some m =>
    have := List.find?_some hfound
    exact Option.isNone_iff_eq_none.1 this

/-! ## Two outcomes -/

/-- How replacing a file ends, as a result and a tree. -/
inductive AllOrNothing (directory p : Path) (octets : List Nat) (t : FileTree) :
    Except FileError Unit × FileTree → Prop where
  /-- The file has its new content, and it has not taken the place of a directory.  Elsewhere only
  directories on the way to it have been made; so the temporary file is gone. -/
  | all {t' : FileTree} {target : Place} (htarget : t'.locate directory p = .ok target)
      (hnew : t'.node? target = some (.file octets)) (hold : t.node? target ≠ some .directory)
      (helse : ∀ l, l ≠ target → FileTree.KeptOrMade (directory.join p.parent).names t t' l) :
      AllOrNothing directory p octets t (.ok (), t')
  /-- The operating system has failed, or the path has a null character.  Everywhere only directories on
  the way to the file have been made. -/
  | nothing {t' : FileTree} {e : FileError} (he : e.ArisesAt p)
      (hall : t.MakesWay (directory.join p.parent).names t') :
      AllOrNothing directory p octets t (.error e, t')

/-- In a tree with a temporary file all else is as before. -/
theorem node?_put_freePlace {made : FileTree} {name : String} {n : FileNode} (j : Place) :
    (made.put (freePlace made l name) n).node? j =
      if freePlace made l name = j then some n else made.node? j :=
  FileTree.node?_put freePlace_ne_nil n j

/-- A tree from which the temporary file has been removed again is as before it was made. -/
theorem node?_remove_freePlace {made : FileTree} {name : String} {n : FileNode} (j : Place) :
    ((made.put (freePlace made l name) n).remove (freePlace made l name)).node? j =
      made.node? j := by
  rw [FileTree.node?_remove freePlace_ne_nil]
  split
  · next h => rw [← h, node?_freePlace]
  · next h => rw [node?_put_freePlace, if_neg h]

theorem of_attempt_eq_error {call : FileCall} {e : FileError}
    (h : (attempt device call).run.run t = (.error e, t')) : t = t' ∧ e = .refused := by
  rw [run_attempt] at h
  split at h
  · cases h
    exact ⟨rfl, rfl⟩
  · cases h

/-- If making a temporary file fails, there is none. -/
theorem of_makeTemporary_eq_error {e : FileError}
    (h : (makeTemporary device directory p).run.run t = (.error e, t')) :
    t = t' ∧ e.ArisesAt p := by
  rw [makeTemporary, run_bind_eq_error] at h
  rcases h with hspell | ⟨⟨⟩, t₁, hspell, h⟩
  · unfold spell at hspell
    split at hspell
    · next hnull =>
      cases hspell
      exact ⟨rfl, .inr ⟨rfl, hnull⟩⟩
    · cases hspell
  obtain ⟨rfl, -⟩ := of_spell_eq_ok hspell
  rw [run_bind_eq_error] at h
  rcases h with hattempt | ⟨⟨⟩, t₁, hattempt, h⟩
  · obtain ⟨rfl, rfl⟩ := of_attempt_eq_error hattempt
    exact ⟨rfl, .inl rfl⟩
  cases of_attempt_eq_ok hattempt
  rw [run_get_bind] at h
  split at h
  · next e' he' =>
    cases h
    exact ⟨rfl, (FileTree.arisesAt_of_locate he').of_parent⟩
  · split at h
    · split at h
      · cases h
        exact ⟨rfl, .inl rfl⟩
      · cases h
    · cases h
      exact ⟨rfl, .inl rfl⟩
    · cases h
      exact ⟨rfl, .inl rfl⟩

/-- If writing fails, the file holds something, and nothing else has changed. -/
theorem of_writeOut_eq_error {source : Place} {e : FileError}
    (h : (writeOut device source octets).run.run t = (.error e, t')) :
    (∃ octets', t' = t.put source (.file octets')) ∧ e = .refused := by
  rw [writeOut, run_bind_eq_error] at h
  rcases h with hpart | ⟨⟨⟩, t₁, hpart, h⟩
  · cases hpart
  cases hpart
  rw [run_bind_eq_error] at h
  rcases h with hattempt | ⟨⟨⟩, t₁, hattempt, h⟩
  · obtain ⟨rfl, rfl⟩ := of_attempt_eq_error hattempt
    exact ⟨⟨_, rfl⟩, rfl⟩
  cases of_attempt_eq_ok hattempt
  rw [run_bind_eq_error] at h
  rcases h with hwhole | ⟨⟨⟩, t₁, hwhole, h⟩
  · cases hwhole
  cases hwhole
  -- From here on only the device is asked, so the file stays as it is.
  suffices hlast : t' = (t.put source (.file (octets.take (device.reach octets)))).put source
      (.file octets) ∧ e = .refused from ⟨⟨octets, hlast.1.trans FileTree.put_put⟩, hlast.2⟩
  rw [run_bind_eq_error] at h
  rcases h with hattempt | ⟨⟨⟩, t₁, hattempt, h⟩
  · obtain ⟨rfl, rfl⟩ := of_attempt_eq_error hattempt
    exact ⟨rfl, rfl⟩
  cases of_attempt_eq_ok hattempt
  rw [run_bind_eq_error] at h
  rcases h with hattempt | ⟨⟨⟩, t₁, hattempt, h⟩
  · obtain ⟨rfl, rfl⟩ := of_attempt_eq_error hattempt
    exact ⟨rfl, rfl⟩
  cases of_attempt_eq_ok hattempt
  obtain ⟨rfl, rfl⟩ := of_attempt_eq_error h
  exact ⟨rfl, rfl⟩

/-- If putting a file in place of another fails, nothing is moved. -/
theorem of_moveTo_eq_error {source : Place} {e : FileError}
    (h : (moveTo device source directory p).run.run t = (.error e, t')) :
    t = t' ∧ e.ArisesAt p := by
  rw [moveTo, run_bind_eq_error] at h
  rcases h with hattempt | ⟨⟨⟩, t₁, hattempt, h⟩
  · obtain ⟨rfl, rfl⟩ := of_attempt_eq_error hattempt
    exact ⟨rfl, .inl rfl⟩
  cases of_attempt_eq_ok hattempt
  rw [run_get_bind] at h
  dsimp only at h
  split at h
  · cases h
    exact ⟨rfl, .inl rfl⟩
  · split at h
    · next e' he' =>
      cases h
      exact ⟨rfl, FileTree.arisesAt_of_locate he'⟩
    · split at h
      · cases h
        exact ⟨rfl, .inl rfl⟩
      · cases h
      · cases h
        exact ⟨rfl, .inl rfl⟩

/-- Where the temporary file is removed again, only the directories are left. -/
theorem AllOrNothing.of_removed {made : FileTree} {n : FileNode} {e : FileError}
    (he : e.ArisesAt p) (hway : t.MakesWay (directory.join p.parent).names made) :
    AllOrNothing directory p octets t
      (.error e, (made.put (freePlace made l p.name) n).remove (freePlace made l p.name)) :=
  .nothing he fun j => (hway j).trans_eq (node?_remove_freePlace j) fun i hi =>
    (node?_remove_freePlace i).trans hi

theorem AllOrNothing.of_error {e : FileError}
    (h : (replaceFile device directory p octets).run.run t = (.error e, t')) :
    AllOrNothing directory p octets t (.error e, t') := by
  rw [replaceFile, run_bind_eq_error] at h
  rcases h with hmade | ⟨⟨⟩, made, hmade, h⟩
  · obtain ⟨hway, he⟩ := makes_makeDirectories t _ t' hmade
    exact .nothing (he e rfl).of_parent hway
  obtain ⟨hway, -⟩ := makes_makeDirectories t _ made hmade
  rw [run_bind_eq_error] at h
  rcases h with htemporary | ⟨temporary, t₁, htemporary, h⟩
  · obtain ⟨rfl, he⟩ := of_makeTemporary_eq_error htemporary
    exact .nothing he hway
  obtain ⟨l, hl, hdirectory, rfl, rfl⟩ := exists_of_makeTemporary htemporary
  obtain ⟨e', t₁, hfailed, hhandler⟩ := exists_of_run_tryCatch_eq_error h
  rw [run_bind_eq_error] at hfailed
  -- The temporary file is there, written as far as the device has let it, and the handler removes it.
  rcases hfailed with hwrite | ⟨⟨⟩, t₂, hwrite, hmove⟩
  · obtain ⟨⟨octets', rfl⟩, rfl⟩ := of_writeOut_eq_error hwrite
    cases hhandler
    rw [FileTree.put_put]
    exact .of_removed (.inl rfl) hway
  · cases eq_of_writeOut_eq_ok hwrite
    obtain ⟨rfl, he⟩ := of_moveTo_eq_error hmove
    cases hhandler
    rw [FileTree.put_put]
    exact .of_removed he hway

section

variable (hdevice : ∀ call t, device.refuses call t = false)

include hdevice

end

end FileAction

end ClientPlan
