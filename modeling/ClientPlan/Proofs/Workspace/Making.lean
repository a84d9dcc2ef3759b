import ClientPlan.Proofs.Workspace.Replacing

/-!
# Making directories

Making the directories above a file may fail after some of them have been made: because of what is in
the tree, because the device refuses a call, or because the path has a null character.  Whatever it
comes to, it changes nothing but that there are directories now to which the first names of the path
lead (`MakesWay`, `makes_makeDirectories`).  Where they are all there, it changes nothing at all
(`run_makeDirectories`).
-/

set_option autoImplicit false

namespace ClientPlan

/-! ## Directories on a way -/

namespace FileTree

variable {way names : List String} {t t₁ t' : FileTree} {l : Place} {directory p : Path}

/-- What is at a place is what was there, or there was nothing and there is a directory now, one to
which the first names of a way lead. -/
def KeptOrMade (way : List String) (t t' : FileTree) (l : Place) : Prop :=
  t'.node? l = t.node? l ∨
    t.node? l = none ∧ t'.node? l = some .directory ∧
      ∃ names, names <+: way ∧ t'.walk [] names = .ok l

/-- Nothing has changed but that directories on a way have been made. -/
def MakesWay (way : List String) (t t' : FileTree) : Prop := ∀ l, KeptOrMade way t t' l

theorem KeptOrMade.keeps_directory (h : KeptOrMade way t t' l) (hl : t.node? l = some .directory) :
    t'.node? l = some .directory := by
  rcases h with h | ⟨-, h, -⟩
  · exact h.trans hl
  · exact h

theorem MakesWay.keeps_directory (h : MakesWay way t t') (l : Place) (hl : t.node? l = some .directory) :
    t'.node? l = some .directory :=
  (h l).keeps_directory hl

theorem MakesWay.refl (way : List String) (t : FileTree) : MakesWay way t t := fun _ => .inl rfl

/-- What has been kept or made stays so if it is not changed any more and directories are kept. -/
theorem KeptOrMade.trans_eq (h : KeptOrMade way t t₁ l) (hl : t'.node? l = t₁.node? l)
    (hdirectories : ∀ j, t₁.node? j = some .directory → t'.node? j = some .directory) :
    KeptOrMade way t t' l := by
  rcases h with h | ⟨hnone, hmade, names, hnames, hwalk⟩
  · exact .inl (hl.trans h)
  · exact .inr ⟨hnone, hl.trans hmade, names, hnames, walk_of_directories hdirectories hwalk⟩

theorem MakesWay.trans (h : MakesWay way t t₁) (h' : MakesWay way t₁ t') : MakesWay way t t' := by
  intro l
  rcases h' l with hl | ⟨hnone, hmade, hway⟩
  · exact (h l).trans_eq hl h'.keeps_directory
  · rcases h l with hl | ⟨-, hl, -⟩
    · exact .inr ⟨hl.symm.trans hnone, hmade, hway⟩
    · cases hnone.symm.trans hl

/-- A directory is made at a place to which the first names of a way lead. -/
theorem makesWay_put (hnames : names <+: way) (hwalk : t.walk [] names = .ok l)
    (hnone : t.node? l = none) : MakesWay way t (t.put l .directory) := by
  have hroot : l ≠ [] := by
    rintro rfl
    cases hnone
  have hput : ∀ j, (t.put l .directory).node? j = if l = j then some .directory else t.node? j :=
    node?_put hroot .directory
  have hdirectories : ∀ j, t.node? j = some .directory →
      (t.put l .directory).node? j = some .directory := by
    intro j hj
    rw [hput, hj, ite_self]
  intro j
  by_cases hj : l = j
  · subst hj
    refine .inr ⟨hnone, ?_, names, hnames, walk_of_directories hdirectories hwalk⟩
    rw [hput, if_pos rfl]
  · refine .inl ?_
    rw [hput, if_neg hj]

/-- Walking fails only as the operating system lets it fail. -/
theorem isSystem_of_walk {e : FileError} (h : t.walk l names = .error e) : e.isSystem = true := by
  induction names generalizing l with
  | nil => cases h
  | cons name rest ih =>
    rw [walk] at h
    split at h
    · split at h
      · cases h
        rfl
      · exact ih h
    · cases h
      rfl
    · cases h
      rfl

theorem walk_of_locate (h : t.locate directory p = .ok l) :
    t.walk [] (directory.join p).names = .ok l := by
  unfold locate at h
  split at h
  · cases h
  split at h
  · cases h
  · exact h

end FileTree

/-- A failure at a path: the operating system lets it happen, or the path has a null character and does
not get as far as that. -/
def FileError.ArisesAt (p : Path) (e : FileError) : Prop :=
  e.isSystem = true ∨ e = .nullCharacter ∧ p.holdsNull = true

theorem Path.holdsNull_of_parent {p : Path} (h : p.parent.holdsNull = true) : p.holdsNull = true := by
  obtain ⟨name, hname, hnull⟩ := List.any_eq_true.1 h
  exact List.any_eq_true.2 ⟨name, List.dropLast_subset _ hname, hnull⟩

theorem FileTree.arisesAt_of_locate {t : FileTree} {directory p : Path} {e : FileError}
    (h : t.locate directory p = .error e) : e.ArisesAt p := by
  unfold locate at h
  split at h
  · next hnull =>
    cases h
    exact .inr ⟨rfl, hnull⟩
  split at h
  · cases h
    exact .inl rfl
  · exact .inl (isSystem_of_walk h)

theorem FileError.ArisesAt.of_parent {p : Path} {e : FileError} (h : e.ArisesAt p.parent) :
    e.ArisesAt p :=
  h.imp_right (And.imp_right Path.holdsNull_of_parent)

theorem Path.names_join_parent (directory p : Path) :
    (directory.join p.parent).names <+: (directory.join p).names := by
  unfold Path.join
  rw [show p.parent.isAbsolute = p.isAbsolute from rfl]
  split
  · exact List.dropLast_prefix p.names
  · exact (List.prefix_append_right_inj directory.names).2 (List.dropLast_prefix p.names)

namespace FileAction

variable {α β : Type} {device : Device} {way : List String} {t t' : FileTree}
  {directory p q : Path} {l : Place}

/-- Whatever an action comes to, it only makes directories on a way, and its failures arise at a path. -/
def Makes (way : List String) (p : Path) (x : FileAction α) : Prop :=
  ∀ t r t', x.run.run t = (r, t') → t.MakesWay way t' ∧ ∀ e, r = .error e → e.ArisesAt p

/-- A sequence of actions fails if the first one does, or the others after it. -/
theorem run_bind_eq_error {x : FileAction α} {f : α → FileAction β} {e : FileError} :
    (x >>= f).run.run t = (.error e, t') ↔ x.run.run t = (.error e, t') ∨
      ∃ a t₁, x.run.run t = (.ok a, t₁) ∧ (f a).run.run t₁ = (.error e, t') := by
  rw [ExceptT.run_bind, StateT.run_bind]
  rcases hx : x.run.run t with ⟨r, t₁⟩
  constructor
  · intro h
    cases r with
    | error e =>
      cases h
      exact .inl rfl
    | ok a => exact .inr ⟨a, t₁, rfl, h⟩
  · rintro (h | ⟨a, t₂, he, h⟩)
    · cases h
      rfl
    · cases he
      exact h

/-- An action with a handler fails as the handler does after the action itself has failed. -/
theorem exists_of_run_tryCatch_eq_error {x : FileAction α} {handler : FileError → FileAction α}
    {e : FileError} (h : (MonadExcept.tryCatch x handler).run.run t = (.error e, t')) :
    ∃ e' t₁, x.run.run t = (.error e', t₁) ∧ (handler e').run.run t₁ = (.error e, t') := by
  rw [ExceptT.run_tryCatch, StateT.run_bind] at h
  rcases hx : x.run.run t with ⟨r, t₁⟩
  rw [hx] at h
  cases r with
  | error e' => exact ⟨e', t₁, rfl, h⟩
  | ok a => cases h

/-- An action that asks for the tree runs on with it. -/
theorem run_get_bind {f : FileTree → FileAction α} :
    ((get : FileAction FileTree) >>= f).run.run t = (f t).run.run t := rfl

theorem makes_pure (a : α) : Makes way p (pure a : FileAction α) := by
  intro t r t' h
  cases h
  exact ⟨.refl way t, nofun⟩

theorem makes_throw {e : FileError} (he : e.ArisesAt p) : Makes way p (throw e : FileAction α) := by
  intro t r t' h
  cases h
  refine ⟨.refl way t, fun e' h => ?_⟩
  cases h
  exact he

/-- An action that starts from the tree as it is makes what it makes from each tree. -/
theorem makes_get_bind {f : FileTree → FileAction α}
    (h : ∀ t r t', (f t).run.run t = (r, t') →
      t.MakesWay way t' ∧ ∀ e, r = .error e → e.ArisesAt p) :
    Makes way p ((get : FileAction FileTree) >>= f) :=
  h

theorem Makes.bind {x : FileAction α} {f : α → FileAction β} (hx : Makes way p x)
    (hf : ∀ a, Makes way p (f a)) : Makes way p (x >>= f) := by
  intro t r t' h
  rw [ExceptT.run_bind, StateT.run_bind] at h
  rcases hrun : x.run.run t with ⟨r₁, t₁⟩
  obtain ⟨hway, hr₁⟩ := hx t r₁ t₁ hrun
  rw [hrun] at h
  cases r₁ with
  | error e =>
    cases h
    refine ⟨hway, fun e' h => ?_⟩
    cases h
    exact hr₁ e rfl
  | ok a =>
    obtain ⟨hway', hr⟩ := hf a t₁ r t' h
    exact ⟨hway.trans hway', hr⟩

theorem Makes.tryCatch {x : FileAction α} {handler : FileError → FileAction α} (hx : Makes way p x)
    (hhandler : ∀ e, e.ArisesAt p → Makes way p (handler e)) :
    Makes way p (MonadExcept.tryCatch x handler) := by
  intro t r t' h
  rw [ExceptT.run_tryCatch, StateT.run_bind] at h
  rcases hrun : x.run.run t with ⟨r₁, t₁⟩
  obtain ⟨hway, hr₁⟩ := hx t r₁ t₁ hrun
  rw [hrun] at h
  cases r₁ with
  | error e =>
    obtain ⟨hway', hr⟩ := hhandler e (hr₁ e rfl) t₁ r t' h
    exact ⟨hway.trans hway', hr⟩
  | ok a =>
    cases h
    exact ⟨hway, nofun⟩

theorem makes_spell (hnull : q.holdsNull = true → p.holdsNull = true) : Makes way p (spell q) := by
  unfold spell
  split
  · next h => exact makes_throw (.inr ⟨rfl, hnull h⟩)
  · exact makes_pure ()

theorem makes_attempt {call : FileCall} : Makes way p (attempt device call) := by
  refine makes_get_bind fun t r t' h => ?_
  split at h
  · exact makes_throw (.inl rfl) t r t' h
  · exact makes_pure () t r t' h

theorem makes_makeDirectory (h : (directory.join q).names <+: way)
    (hnull : q.holdsNull = true → p.holdsNull = true) :
    Makes way p (makeDirectory device directory q) := by
  refine (makes_spell hnull).bind fun _ => makes_attempt.bind fun _ =>
    makes_get_bind fun t r t' hrun => ?_
  split at hrun
  · next e he =>
    have harises := (FileTree.arisesAt_of_locate he).imp_right (And.imp_right hnull)
    exact makes_throw harises t r t' hrun
  · next l hl =>
    split at hrun
    · exact makes_throw (.inl rfl) t r t' hrun
    · next hnone =>
      cases hrun
      exact ⟨FileTree.makesWay_put h (FileTree.walk_of_locate hl) hnone, nofun⟩

theorem makes_unlessDirectory {action : FileAction Unit} (h : Makes way p action) :
    Makes way p (unlessDirectory directory q action) := by
  refine h.tryCatch fun e he => makes_get_bind fun t r t' hrun => ?_
  split at hrun
  · exact makes_pure () t r t' hrun
  · exact makes_throw he t r t' hrun

theorem makes_makeDirectoriesTo {depth : Nat} (h : (directory.join q).names <+: way)
    (hnull : q.holdsNull = true → p.holdsNull = true) :
    Makes way p (makeDirectoriesTo device directory q depth) := by
  induction depth generalizing q with
  | zero => exact makes_unlessDirectory (makes_makeDirectory h hnull)
  | succ depth ih =>
    have hmake : Makes way p (unlessDirectory directory q (makeDirectory device directory q)) :=
      makes_unlessDirectory (makes_makeDirectory h hnull)
    refine hmake.tryCatch fun e he => ?_
    split
    · have habove := ih ((Path.names_join_parent directory q).trans h)
        fun hparent => hnull (Path.holdsNull_of_parent hparent)
      exact habove.bind fun _ => hmake
    · exact makes_throw he

/-- Making directories changes nothing else, also if it fails. -/
theorem makes_makeDirectories :
    Makes (directory.join p).names p (makeDirectories device directory p) :=
  makes_makeDirectoriesTo (List.prefix_refl _) id

end FileAction

end ClientPlan
