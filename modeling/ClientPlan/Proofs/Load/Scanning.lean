import ClientPlan.Proofs.Outcome
import ClientPlan.Yaml.Lexer

/-!
# Faults of cutting a source

A source is cut into tokens up to the place where it is broken.  There the grammar is broken, an escape
names no character, or a number in a directive is too long (`Token.lexical_of_broken_mem`).
-/

set_option autoImplicit false

namespace ClientPlan.Yaml

/-- What can be wrong with a number or with an escape in a source. -/
def lexicalFaults : List Malformed := [.badScalar, .hugeCode, .loneSurrogate]

/-- What can be wrong with a source: its grammar, or a number or an escape in it. -/
def Fault.Lexical (f : Fault) : Prop := f = .malformed ∨ ∃ m ∈ lexicalFaults, f = .scalar m

/-- A reader of a source fails only as sources do. -/
abbrev Scans {α : Type} : Except Fault α → Prop := Ends (fun _ => True) Fault.Lexical

theorem scans_ok {α : Type} {a : α} : Scans (.ok a) := .ok trivial

theorem scans_malformed {α : Type} {P : α → Prop} : Ends P Fault.Lexical (.error .malformed) :=
  .error (.inl rfl)

theorem Scans.bind {α β : Type} {P : β → Prop} {x : Except Fault α} {f : α → Except Fault β}
    (hx : Scans x) (hf : ∀ a, Ends P Fault.Lexical (f a)) : Ends P Fault.Lexical (x >>= f) :=
  Ends.bind hx fun a _ _ => hf a

/-! ## Quoted scalars -/

/-- An escape by hexadecimal digits may be beyond all characters. -/
theorem scans_codeEscape (width : Nat) (s : Source) : Scans (codeEscape width s) := by
  have hchar (n : Nat) : Scans (charOfCode n) := by
    unfold charOfCode
    repeat' split
    all_goals first
      | exact scans_ok
      | exact .error (.inr ⟨_, by decide, rfl⟩)
  unfold codeEscape
  dsimp only
  repeat' split
  · exact (hchar _).bind fun _ => scans_ok
  · exact scans_malformed
  · exact scans_malformed

theorem scans_quotedBreaks (acc : List Char) (s : Source) : Scans (quotedBreaks acc s) := by
  fun_induction quotedBreaks acc s with
  | case1 => exact scans_malformed
  | case2 _ _ _ _ _ _ _ _ _ ih => exact ih
  | case3 => exact scans_malformed
  | case4 => exact scans_ok

theorem scans_quotedGap (s : Source) : Scans (quotedGap s) := by
  unfold quotedGap
  dsimp only
  split
  · exact (scans_quotedBreaks _ _).bind fun _ => scans_ok
  · exact scans_ok

theorem scans_escape (s : Source) : Scans (escape s) := by
  unfold escape
  dsimp only
  split
  · exact scans_ok
  · exact (scans_codeEscape _ _).bind fun _ => scans_ok
  · split
    · exact scans_quotedBreaks _ _
    · exact scans_malformed

theorem scans_quotedPart (double : Bool) (s : Source) : Scans (quotedPart double s) := by
  unfold quotedPart
  dsimp only
  repeat' split
  · exact scans_malformed
  · exact scans_quotedGap s
  · exact scans_escape _
  · exact scans_ok

theorem scans_quotedText (double : Bool) (acc : List Char) (s : Source) :
    Scans (quotedText double acc s) := by
  fun_induction quotedText double acc s with
  | case1 _ _ _ _ _ _ _ ih => exact ih
  | case2 => exact scans_malformed
  | case3 => exact scans_ok
  | case4 _ s _ _ e he => exact he ▸ scans_quotedPart double s
  | case5 _ _ _ _ _ _ _ _ ih => exact ih
  | case6 => exact scans_malformed

/-! ## Other readers -/

theorem scans_afterLine (s : Source) : Scans s.afterLine := by
  unfold Source.afterLine
  dsimp only
  repeat' split
  all_goals first
    | exact scans_ok
    | exact scans_malformed

theorem scans_blockScalar (folded : Bool) (parent : Int) (s : Source) :
    Scans (blockScalar folded parent s) := by
  have hheader (t : Source) : Scans (blockHeader t) := by
    unfold blockHeader
    dsimp only
    repeat' split
    all_goals first
      | exact scans_ok
      | exact scans_malformed
  exact (hheader s).bind fun _ => (scans_afterLine _).bind fun _ => scans_ok

theorem scans_anchorName (s : Source) : Scans (anchorName s) := by
  unfold anchorName
  dsimp only
  split
  · exact scans_malformed
  · exact scans_ok

theorem scans_tagOctets (acc : List Nat) (s : Source) : Scans (tagOctets acc s) := by
  fun_induction tagOctets acc s with
  | case1 _ _ _ _ _ _ _ _ _ _ _ ih => exact ih
  | case2 => exact scans_malformed
  | case3 => exact scans_malformed
  | case4 => exact scans_ok

theorem scans_tagText (acc : List Char) (s : Source) : Scans (tagText acc s) := by
  fun_induction tagText acc s with
  | case1 _ s _ _ e he =>
    have hoctets := scans_tagOctets [] s
    rw [he] at hoctets
    exact .error hoctets.of_error
  | case2 => exact scans_malformed
  | case3 _ _ _ _ _ _ _ _ _ _ ih => exact ih
  | case4 => exact scans_malformed
  | case5 _ _ _ _ _ _ _ ih => exact ih
  | case6 => exact scans_malformed
  | case7 => exact scans_malformed
  | case8 => exact scans_ok

theorem scans_tagHandle (s : Source) : Scans (tagHandle s) := by
  unfold tagHandle
  dsimp only
  repeat' split
  · exact scans_malformed
  · exact scans_ok
  · exact scans_ok
  · exact scans_malformed

theorem scans_directiveNumber (s : Source) : Scans (directiveNumber s) := by
  unfold directiveNumber
  dsimp only
  repeat' split
  all_goals first
    | exact scans_ok
    | exact scans_malformed
    | exact .error (.inr ⟨_, by decide, rfl⟩)

theorem scans_readVersion (s : Source) : Scans (readVersion s) := by
  refine (scans_directiveNumber _).bind fun _ => ?_
  dsimp only
  split
  · exact scans_malformed
  · refine (scans_directiveNumber _).bind fun _ => ?_
    split
    · exact scans_ok
    · exact scans_malformed

theorem scans_readHandle (s : Source) : Scans (readHandle s) := by
  refine (scans_tagHandle _).bind fun _ => ?_
  dsimp only
  split
  · exact scans_malformed
  · refine (scans_tagText [] _).bind fun _ => ?_
    split
    · exact scans_ok
    · exact scans_malformed

/-! ## Tokens -/

/-- A token is no broken place. -/
def Token.Whole : Token → Prop
  | broken _ => False
  | _ => True

/-- A reader gives tokens that are no broken places. -/
abbrev Cuts : Except Fault (Token × Source) → Prop := Ends (fun r => r.1.Whole) Fault.Lexical

/-- A tag ends where a field does. -/
theorem cuts_tagEnd {t : Token} (ht : t.Whole) (s : Source) :
    Cuts (if endsField s.peek then pure (t, s) else .error .malformed) := by
  split
  · exact .ok ht
  · exact scans_malformed

theorem cuts_readTag (s : Source) : Cuts (readTag s) := by
  unfold readTag
  dsimp only
  repeat' split
  · refine (scans_tagText [] _).bind fun r => ?_
    split
    · exact cuts_tagEnd (t := .tag none r.1) trivial _
    · exact scans_malformed
  · exact cuts_tagEnd (t := .tag none "!") trivial _
  · exact (scans_tagHandle s).bind fun r => (scans_tagText [] _).bind fun r' =>
      cuts_tagEnd (t := .tag (some r.1) r'.1) trivial r'.2
  · exact (scans_tagText [] _).bind fun r => cuts_tagEnd (t := .tag (some "!") r.1) trivial r.2

theorem cuts_readDirective (s : Source) : Cuts (readDirective s) := by
  unfold readDirective
  dsimp only
  repeat' split
  · exact scans_malformed
  · exact (scans_readVersion _).bind fun _ => (scans_afterLine _).bind fun _ => .ok trivial
  · exact (scans_readHandle _).bind fun _ => (scans_afterLine _).bind fun _ => .ok trivial
  · exact (scans_afterLine _).bind fun _ => .ok trivial

theorem cuts_readName {token : String → Token} (h : ∀ name, (token name).Whole) (s : Source) :
    Cuts (Lexer.readName token s) :=
  (scans_anchorName _).bind fun r => .ok (h r.1)

theorem cuts_readQuoted (double : Bool) (s : Source) : Cuts (Lexer.readQuoted double s) :=
  (scans_quotedText double [] _).bind fun _ => .ok trivial

namespace Lexer

/-- No place is broken so far. -/
def Whole (l : Lexer) : Prop := ∀ t ∈ l.tokens, t.Whole

/-- A step leaves no broken place behind. -/
abbrev Goes : Except Fault Lexer → Prop := Ends Whole Fault.Lexical

section

variable {l : Lexer}

theorem Whole.push (h : l.Whole) {t : Token} (ht : t.Whole) : (l.push t).Whole := by
  intro t' ht'
  rcases Array.mem_push.1 ht' with ht' | rfl
  · exact h t' ht'
  · exact ht

theorem Whole.insert (h : l.Whole) {t : Token} (ht : t.Whole) (position : Nat) :
    ({ l with tokens := l.tokens.insertIdxIfInBounds position t } : Lexer).Whole := by
  intro t' ht'
  dsimp only [Array.insertIdxIfInBounds] at ht'
  split at ht'
  · rcases Array.mem_insertIdx.1 ht' with rfl | ht'
    · exact ht
    · exact h t' ht'
  · exact h t' ht'

theorem Whole.endBlocks (h : l.Whole) (column : Int) : (l.endBlocks column).Whole := by
  unfold Lexer.endBlocks
  split
  · exact h
  · intro t ht
    rcases Array.mem_append.1 ht with ht | ht
    · exact h t ht
    · cases Array.eq_of_mem_replicate ht
      trivial

theorem Whole.startBlock (h : l.Whole) (column position : Nat) {t : Token} (ht : t.Whole) :
    (l.startBlock column position t).Whole := by
  unfold Lexer.startBlock
  split
  · exact h.insert ht position
  · exact h

theorem Whole.skipBlanks (h : l.Whole) : l.skipBlanks.Whole := by
  fun_induction Lexer.skipBlanks l with
  | case1 _ _ _ _ _ _ ih => exact ih h
  | case2 => exact h
  | case3 => exact h

theorem Whole.refuseCandidate (h : l.Whole) : Goes l.refuseCandidate := by
  unfold Lexer.refuseCandidate
  split
  · exact scans_malformed
  · exact .ok h

theorem Whole.addCandidate (h : l.Whole) : Goes l.addCandidate := by
  unfold Lexer.addCandidate
  split
  · exact .ok h
  · exact h.refuseCandidate.bind fun _ _ h₁ => .ok h₁

theorem Whole.dropStale (h : l.Whole) : Goes l.dropStale := by
  unfold Lexer.dropStale
  split
  · exact scans_malformed
  · exact .ok h

theorem Whole.endDocument (h : l.Whole) : Goes l.endDocument :=
  (h.endBlocks (-1)).refuseCandidate.bind fun _ _ h₁ => .ok h₁

theorem Whole.documentToken (h : l.Whole) {t : Token} (ht : t.Whole) (rest : Source) :
    Goes (l.documentToken t rest) :=
  h.endDocument.bind fun _ _ h₁ => .ok (h₁.push ht)

theorem Whole.directive (h : l.Whole) : Goes l.directive :=
  h.endDocument.bind fun _ _ h₁ => (cuts_readDirective _).bind fun _ _ ht => .ok (h₁.push ht)

theorem Whole.openFlow (h : l.Whole) {t : Token} (ht : t.Whole) : Goes (l.openFlow t) :=
  h.addCandidate.bind fun l₁ _ h₁ =>
    .ok (Whole.push (l := { l₁ with depth := l₁.depth + 1, keyAllowed := true }) h₁ ht)

theorem Whole.closeFlow (h : l.Whole) {t : Token} (ht : t.Whole) : Goes (l.closeFlow t) :=
  h.refuseCandidate.bind fun l₁ _ h₁ =>
    .ok (Whole.push (l := { l₁ with depth := l₁.depth - 1, keyAllowed := false }) h₁ ht)

theorem Whole.comma (h : l.Whole) : Goes l.comma :=
  h.refuseCandidate.bind fun _ _ h₁ => .ok (Whole.push (l := allowKey _ true) h₁ trivial)

theorem Whole.hyphen (h : l.Whole) : Goes l.hyphen := by
  unfold Lexer.hyphen
  split
  · exact scans_malformed
  · have hstart := h.startBlock l.rest.column l.tokens.size (t := .blockSequenceStart) trivial
    exact hstart.refuseCandidate.bind fun _ _ h₁ =>
      .ok (Whole.push (l := allowKey _ true) h₁ trivial)

theorem Whole.question (h : l.Whole) : Goes l.question := by
  unfold Lexer.question
  split
  · exact scans_malformed
  · have hstart := h.startBlock l.rest.column l.tokens.size (t := .blockMappingStart) trivial
    exact hstart.refuseCandidate.bind fun _ _ h₁ =>
      .ok (Whole.push (l := allowKey _ _) h₁ trivial)

theorem Whole.colonAfter (h : l.Whole) (k : KeyCandidate) : (l.colonAfter k).Whole := by
  have hkey := Whole.insert (l := l.dropCandidate) h (t := .key) trivial k.position
  have hstart := hkey.startBlock k.column k.position (t := .blockMappingStart) trivial
  exact Whole.push (l := allowKey _ false) hstart trivial

theorem Whole.colon (h : l.Whole) : Goes l.colon := by
  unfold Lexer.colon
  split
  · exact .ok (h.colonAfter _)
  · split
    · exact scans_malformed
    · have hstart := h.startBlock l.rest.column l.tokens.size (t := .blockMappingStart) trivial
      dsimp only
      generalize l.startBlock l.rest.column l.tokens.size .blockMappingStart = l at hstart ⊢
      exact (Whole.refuseCandidate (l := l.allowKey (l.depth == 0)) hstart).bind fun _ _ h₁ =>
        .ok (h₁.push (t := .value) trivial)

theorem Whole.keyToken (h : l.Whole) {read : Source → Except Fault (Token × Source)}
    (hread : ∀ s, Cuts (read s)) : Goes (l.keyToken read) :=
  h.addCandidate.bind fun _ _ h₁ => (hread _).bind fun _ _ ht =>
    .ok (Whole.push (l := allowKey _ false) h₁ ht)

theorem Whole.block (h : l.Whole) (folded : Bool) : Goes (l.block folded) :=
  (Whole.refuseCandidate (l := l.allowKey true) h).bind fun _ _ h₁ =>
    (scans_blockScalar folded _ _).bind fun _ => .ok (h₁.push (t := .scalar _ false) trivial)

theorem Whole.plain (h : l.Whole) : Goes l.plain :=
  h.addCandidate.bind fun _ _ h₁ =>
    .ok (Whole.push (l := allowKey _ _) h₁ (t := .scalar _ true) trivial)

theorem Whole.next (h : l.Whole) : Goes l.next := by
  unfold Lexer.next
  dsimp only
  exact .ite h.directive <| .ite (h.documentToken (t := .documentStart) trivial _) <|
    .ite (h.documentToken (t := .documentEnd) trivial _) <|
    .ite (h.openFlow trivial) <| .ite (h.openFlow trivial) <|
    .ite (h.closeFlow trivial) <| .ite (h.closeFlow trivial) <| .ite h.comma <|
    .ite h.hyphen <| .ite h.question <| .ite h.colon <|
    .ite (h.keyToken (cuts_readName fun _ => trivial)) <|
    .ite (h.keyToken (cuts_readName fun _ => trivial)) <| .ite (h.keyToken cuts_readTag) <|
    .ite (h.block false) <| .ite (h.block true) <|
    .ite (h.keyToken (cuts_readQuoted false)) <| .ite (h.keyToken (cuts_readQuoted true)) <|
    .ite h.plain scans_malformed

theorem Whole.prepare (h : l.Whole) : Goes l.prepare :=
  h.skipBlanks.dropStale.bind fun _ _ h₁ => .ok (h₁.endBlocks _)

end

/-- Only the last token can be a broken place. -/
theorem Whole.lexical {l : Lexer} (h : l.Whole) {f : Fault} (hf : Token.broken f ∈ l.tokensFrom) :
    f.Lexical := by
  have hbroken : ∀ {f'}, f'.Lexical → Token.broken f ∈ l.broken f' → f.Lexical := by
    intro f' hf' hf
    rcases Array.mem_push.1 hf with hf | hf
    · rw [Array.take_eq_extract, Array.mem_extract_iff_getElem] at hf
      obtain ⟨k, hk, hf⟩ := hf
      exact (h _ (Array.mem_of_getElem hf)).elim
    · cases hf
      exact hf'
  -- A broken place ends the run, and the run goes on only from a lexer that is whole.
  unfold Lexer.tokensFrom at hf
  have hprepare := h.prepare
  generalize l.prepare = prepared at hprepare hf
  cases hprepare with
  | error hfault => exact hbroken hfault hf
  | @ok m hm =>
    dsimp only at hf
    split at hf
    · have hend := hm.documentToken (t := .streamEnd) trivial m.rest
      generalize m.documentToken .streamEnd m.rest = ended at hend hf
      cases hend with
      | error hfault => exact hbroken hfault hf
      | ok hlast => exact (hlast _ hf).elim
    · have hnext := hm.next
      generalize m.next = cut at hnext hf
      cases hnext with
      | error hfault => exact hbroken hfault hf
      | ok hcut =>
        dsimp only at hf
        split at hf
        · exact Whole.lexical hcut hf
        · exact hbroken (.inl rfl) hf
termination_by l.rest.length

end Lexer

/-- Where a stream is broken, its grammar is, or a number or an escape. -/
theorem Token.lexical_of_broken_mem {s : Source} {f : Fault} (h : broken f ∈ ofSource s) :
    f.Lexical := by
  have hstart : (Lexer.skipMark { rest := s }).Whole := by
    unfold Lexer.skipMark
    intro t ht
    split at ht <;> exact absurd ht (Array.not_mem_empty t)
  exact hstart.lexical (Array.mem_toList_iff.1 h)

end ClientPlan.Yaml
