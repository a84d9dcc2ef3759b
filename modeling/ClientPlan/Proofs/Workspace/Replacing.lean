import ClientPlan.Proofs.OrderedMap
import ClientPlan.Workspace.FileTree

/-!
# Replacing a file

What a successful replacement has done is told step by step (`exists_of_replaceFile`).  Neither the
temporary file nor what is replaced is a directory, so the path leads where it did before, and the
new content is read there (`readFile_of_replaceFile`).
-/

set_option autoImplicit false

namespace ClientPlan

namespace FileTree

variable {t t' : FileTree} {l target : Place} {names : List String} {directory p : Path}
  {octets : List Nat}

/-- Only directories count on the way. -/
theorem walk_of_directories
    (h : ∀ l, t.node? l = some .directory → t'.node? l = some .directory)
    (hw : t.walk l names = .ok target) : t'.walk l names = .ok target := by
  induction names generalizing l with
  | nil => exact hw
  | cons name rest ih =>
    rw [walk] at hw ⊢
    split at hw
    · next hdirectory =>
      rw [h l hdirectory]
      dsimp only
      split at hw
      · cases hw
      · next hshort =>
        rw [if_neg hshort]
        exact ih hw
    · cases hw
    · cases hw

theorem locate_of_directories
    (h : ∀ l, t.node? l = some .directory → t'.node? l = some .directory)
    (hl : t.locate directory p = .ok l) : t'.locate directory p = .ok l := by
  unfold locate at hl ⊢
  split at hl
  · cases hl
  next hnull =>
    rw [if_neg hnull]
    split at hl
    · cases hl
    · next hshort =>
      rw [if_neg hshort]
      exact walk_of_directories h hl

theorem readFile_of_locate (hl : t.locate directory p = .ok l)
    (hn : t.node? l = some (.file octets)) : t.readFile directory p = .ok (some octets) := by
  rw [readFile, look, hl]
  dsimp only
  rw [hn]
  rfl

/-- What is put at a place takes the place of what was put there before. -/
theorem put_put {n n' : FileNode} : (t.put l n').put l n = t.put l n :=
  congrArg FileTree.mk OrderedMap.insert_insert

/-- A place at which there is no directory is not the root. -/
theorem ne_nil_of_node?_ne (h : t.node? l ≠ some .directory) : l ≠ [] := by
  rintro rfl
  exact h rfl

/-- Neither a file that is moved nor what it takes the place of is a directory, so all directories are
still there, and a path leads to the same place. -/
theorem node?_moved_of_directory {source : Place} (htarget : t.node? target ≠ some .directory)
    (hsource : t.node? source ≠ some .directory) (h : t.node? l = some .directory) :
    ((t.remove source).put target (.file octets)).node? l = some .directory := by
  have hne : target ≠ l := fun he => htarget (he ▸ h)
  have hne' : source ≠ l := fun he => hsource (he ▸ h)
  rw [node?_put (ne_nil_of_node?_ne htarget), if_neg hne,
    node?_remove (ne_nil_of_node?_ne hsource), if_neg hne']
  exact h

end FileTree

namespace FileAction

variable {α β : Type} {device : Device} {call : FileCall} {t t' : FileTree} {directory p : Path}
  {octets : List Nat} {source : Place}

/-- A sequence of actions succeeds if the first one does and the others after it. -/
theorem run_bind_eq_ok {x : FileAction α} {f : α → FileAction β} {b : β} :
    (x >>= f).run.run t = (.ok b, t') ↔
      ∃ a t₁, x.run.run t = (.ok a, t₁) ∧ (f a).run.run t₁ = (.ok b, t') := by
  rw [ExceptT.run_bind, StateT.run_bind]
  rcases hx : x.run.run t with ⟨r, t₁⟩
  constructor
  · intro h
    cases r with
    | error e => cases h
    | ok a => exact ⟨a, t₁, rfl, h⟩
  · rintro ⟨a, t₂, he, h⟩
    cases he
    exact h

/-- An action whose failure is passed on by its handler succeeds by itself. -/
theorem run_tryCatch_eq_ok {x : FileAction α} {handler : FileError → FileAction α} {a : α}
    (hfail : ∀ e t₁ t₂, (handler e).run.run t₁ ≠ (.ok a, t₂))
    (h : (tryCatch x handler).run.run t = (.ok a, t')) : x.run.run t = (.ok a, t') := by
  rw [ExceptT.run_tryCatch, StateT.run_bind] at h
  rcases hx : x.run.run t with ⟨r, t₁⟩
  rw [hx] at h
  cases r with
  | error e => exact absurd h (hfail e t₁ t')
  | ok b => exact h

/-- Spelling a path changes nothing, and it succeeds for a path without null characters. -/
theorem of_spell_eq_ok (h : (spell p).run.run t = (.ok (), t')) : t = t' ∧ ¬ p.holdsNull := by
  unfold spell at h
  split at h
  · cases h
  · next hnull =>
    cases h
    exact ⟨rfl, hnull⟩

/-- What the device is asked is whether it refuses a call, and the tree stays as it is. -/
theorem run_attempt : (attempt device call).run.run t =
    (if device.refuses call t then .error .refused else .ok (), t) := by
  show (if device.refuses call t then throw FileError.refused else pure () :
    FileAction Unit).run.run t = _
  split
  · rfl
  · rfl

theorem of_attempt_eq_ok (h : (attempt device call).run.run t = (.ok (), t')) : t = t' := by
  rw [run_attempt] at h
  exact congrArg Prod.snd h

/-- What has happened if a file was put in place of another. -/
theorem exists_of_moveTo (h : (moveTo device source directory p).run.run t = (.ok (), t')) :
    ∃ target n, t.locate directory p = .ok target ∧ t.node? target ≠ some .directory ∧
      t.node? source = some n ∧ t' = (t.remove source).put target n := by
  obtain ⟨⟨⟩, t₁, hattempt, h⟩ := run_bind_eq_ok.1 h
  cases of_attempt_eq_ok hattempt
  obtain ⟨t₀, t₁, hget, h⟩ := run_bind_eq_ok.1 h
  cases hget
  dsimp only at h
  split at h
  · cases h
  split at h
  · cases h
  · next target htarget =>
    split at h
    · cases h
    · next n hn hdirectory =>
      cases h
      exact ⟨target, n, htarget, fun hnode => hdirectory hnode, hn, rfl⟩
    · cases h

/-- What has happened if a temporary file was made. -/
theorem exists_of_makeTemporary
    (h : (makeTemporary device directory p).run.run t = (.ok source, t')) :
    ∃ l, t.locate directory p.parent = .ok l ∧ t.node? l = some .directory ∧
      source = freePlace t l p.name ∧ t' = t.put source (.file []) := by
  obtain ⟨⟨⟩, t₁, hspell, h⟩ := run_bind_eq_ok.1 h
  obtain ⟨rfl, -⟩ := of_spell_eq_ok hspell
  obtain ⟨⟨⟩, t₂, hattempt, h⟩ := run_bind_eq_ok.1 h
  cases of_attempt_eq_ok hattempt
  obtain ⟨t₀, t₁, hget, h⟩ := run_bind_eq_ok.1 h
  cases hget
  dsimp only at h
  split at h
  · cases h
  · next l hl =>
    split at h
    · next hdirectory =>
      split at h
      · cases h
      · cases h
        exact ⟨l, hl, hdirectory, rfl, rfl⟩
    · cases h
    · cases h

theorem freePlace_ne_nil {l : Place} {name : String} : freePlace t l name ≠ [] :=
  List.append_ne_nil_of_right_ne_nil l (List.cons_ne_nil _ _)

/-- If all of a file has been written, it holds the octets and nothing else has changed. -/
theorem eq_of_writeOut_eq_ok (h : (writeOut device source octets).run.run t = (.ok (), t')) :
    t' = t.put source (.file octets) := by
  obtain ⟨⟨⟩, t₁, hpart, h⟩ := run_bind_eq_ok.1 h
  cases hpart
  obtain ⟨⟨⟩, t₁, hattempt, h⟩ := run_bind_eq_ok.1 h
  cases of_attempt_eq_ok hattempt
  obtain ⟨⟨⟩, t₁, hwhole, h⟩ := run_bind_eq_ok.1 h
  cases hwhole
  obtain ⟨⟨⟩, t₁, hattempt, h⟩ := run_bind_eq_ok.1 h
  cases of_attempt_eq_ok hattempt
  obtain ⟨⟨⟩, t₁, hattempt, h⟩ := run_bind_eq_ok.1 h
  cases of_attempt_eq_ok hattempt
  rw [← of_attempt_eq_ok h]
  exact FileTree.put_put

/-- What has happened if a file was replaced: directories were made, a temporary file was made and
written, and that was put in place of the file, which was no directory. -/
theorem exists_of_replaceFile
    (h : (replaceFile device directory p octets).run.run t = (.ok (), t')) :
    ∃ made l target temporary,
      (makeDirectories device directory p.parent).run.run t = (.ok (), made) ∧
      made.locate directory p.parent = .ok l ∧ made.node? l = some .directory ∧
      temporary = freePlace made l p.name ∧
      (made.put temporary (.file octets)).locate directory p = .ok target ∧
      (made.put temporary (.file octets)).node? target ≠ some .directory ∧
      t' = ((made.put temporary (.file octets)).remove temporary).put target (.file octets) := by
  obtain ⟨⟨⟩, made, hmade, h⟩ := run_bind_eq_ok.1 h
  obtain ⟨temporary, t₂, htemporary, h⟩ := run_bind_eq_ok.1 h
  obtain ⟨l, hl, hdirectory, hfree, rfl⟩ := exists_of_makeTemporary htemporary
  have h := run_tryCatch_eq_ok (fun e t₁ t₂ hfail => by cases hfail) h
  obtain ⟨⟨⟩, t₃, hwrite, h⟩ := run_bind_eq_ok.1 h
  have hwritten := (eq_of_writeOut_eq_ok hwrite).trans FileTree.put_put
  subst hwritten
  obtain ⟨target, n, htarget, hnode, hn, rfl⟩ := exists_of_moveTo h
  have hfile : (made.put temporary (.file octets)).node? temporary = some (.file octets) := by
    rw [FileTree.node?_put (hfree ▸ freePlace_ne_nil), if_pos rfl]
  cases hfile.symm.trans hn
  exact ⟨made, l, target, temporary, hmade, hl, hdirectory, hfree, htarget, hnode, rfl⟩

end FileAction

/-- After a file has been replaced, its new content is read at the same path. -/
theorem readFile_of_replaceFile {device : Device} {t t' : FileTree} {directory p : Path}
    {octets : List Nat}
    (h : (FileAction.replaceFile device directory p octets).run.run t = (.ok (), t')) :
    t'.readFile directory p = .ok (some octets) := by
  obtain ⟨made, l, target, temporary, -, -, -, hfree, htarget, hnode, rfl⟩ :=
    FileAction.exists_of_replaceFile h
  have htemporary : temporary ≠ [] := hfree ▸ FileAction.freePlace_ne_nil
  have hroot : target ≠ [] := FileTree.ne_nil_of_node?_ne hnode
  refine FileTree.readFile_of_locate
    (FileTree.locate_of_directories (fun place hplace => ?_) htarget)
    (by rw [FileTree.node?_put hroot, if_pos rfl])
  refine FileTree.node?_moved_of_directory hnode ?_ hplace
  rw [FileTree.node?_put htemporary, if_pos rfl]
  exact nofun

end ClientPlan
