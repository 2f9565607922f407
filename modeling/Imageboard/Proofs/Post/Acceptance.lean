import Imageboard.Proofs.Execution
import Imageboard.Proofs.Post.Resolution
import Imageboard.Proofs.Text.FilledLines

/-!
Which posts are accepted. A prepared text consists of lines that are not empty, each with a newline,
and every such line starts a block; so a post is refused when it has no such line, or for a
reference that is written with too many digits.
-/
namespace Imageboard

namespace Markup

/-! ## Lines that are not empty are read to the end -/

theorem exists_outlineAt? {line : List Char} (hne : line ≠ []) (others : List (List Char)) :
    ∃ found, outlineAt? (line :: others) = some found := by
  have hcontent : ∃ kind content, lineContent? line = some (kind, content) := by
    unfold lineContent?
    dsimp only
    split_ifs <;> exact ⟨_, _, rfl⟩
  obtain ⟨kind, content, hcontent⟩ := hcontent
  cases hcode : codeAt? (line :: others) with
  | none =>
      exact ⟨(.line kind (readPieces LineRule.inOrder content).1, 1),
        by simp [outlineAt?, hcode, hcontent]⟩
  | some found => exact ⟨(.finished found.1, found.2), by simp [outlineAt?, hcode]⟩

theorem readOutlines_of_filled {lines : List (List Char)}
    (hlines : ∀ line ∈ lines, line ≠ [] ∧ '\n' ∉ line) :
    (readOutlines (terminated lines)).2 = [] ∧
      (lines ≠ [] → (readOutlines (terminated lines)).1 ≠ []) := by
  -- Code takes several lines at once, so the induction is on how many lines there are.
  induction hk : lines.length using Nat.strongRecOn generalizing lines with
  | ind length ih =>
      subst hk
      have hread := readOutline_lines (fun line hl => (hlines line hl).2)
        (List.not_mem_nil (a := '\n'))
      simp only [List.append_nil] at hread
      cases lines with
      | nil =>
          rw [readOutlines_of_none hread]
          exact ⟨rfl, fun h => absurd rfl h⟩
      | cons line others =>
          obtain ⟨⟨outline, n⟩, ho⟩ := exists_outlineAt? (hlines line List.mem_cons_self).1 others
          have hpos := (outlineAt?_takes ho).1
          rw [ho] at hread
          have hdrop : ((line :: others).drop n).length < (line :: others).length := by
            rw [List.length_drop, List.length_cons]
            omega
          obtain ⟨hrest, -⟩ := ih _ hdrop
            (fun other h => hlines other (List.mem_of_mem_drop h)) rfl
          rw [readOutlines_of_some hread]
          exact ⟨hrest, fun _ => List.cons_ne_nil _ _⟩

/-- What is wrong with a post that has no text. -/
def emptyPost : SyntaxError := ⟨['\n'], 0, "a block"⟩

theorem linePieces?_newline (kind : LineKind) : linePieces? kind ['\n'] = none :=
  (linePieces?_line kind List.not_mem_nil []).trans (linePieces?_nil kind)

theorem readOutlines_newline : readOutlines ['\n'] = ([], ['\n']) := by
  apply readOutlines_of_none
  have hline : ∀ line ∈ [([] : List Char)], '\n' ∉ line := by simp
  exact readOutline_lines hline List.not_mem_nil

variable {m : Type → Type} [Monad m] [LawfulMonad m] {σ : Type} {E : Execution m σ}
  {lookup : Lookup m}

/-- A single newline is refused without a question. -/
theorem parseBlocks_newline (lookup : Lookup m) :
    parseBlocks lookup ['\n'] = throw (.syntaxError emptyPost) := by
  rw [parseBlocks_eq, readOutlines_newline, askInVain_of_none lookup linePieces?_newline,
    List.mapM_nil, adapt_pure, adapt_pure, pure_bind, pure_bind]
  rfl

/-! ## References that are too long -/

/-- An outline with short enough references. -/
def BlockOutline.Fits : BlockOutline → Prop
  | .finished _ => True
  | .line _ pieces => ∀ piece ∈ pieces, piece.Fits

theorem fits_of_readOutline {s rest : List Char} {outline : BlockOutline} (hfit : ReferencesFit s)
    (h : readOutline s = some (outline, rest)) : outline.Fits := by
  obtain ⟨block, rfl, -⟩ | ⟨kind, entered, he, rfl, -, -⟩ := readOutline_cases h
  · trivial
  · exact fits_of_mem_readPieces (hfit.mono (LineKind.suffix_of_enter? he).isInfix)

theorem fits_of_mem_readOutlines {s : List Char} (hfit : ReferencesFit s) :
    ∀ outline ∈ (readOutlines s).1, outline.Fits := by
  induction s using readOutlines.induct with
  | case1 s h =>
      rw [readOutlines_of_none h]
      intro outline houtline
      cases houtline
  | case2 s outline rest h _ ih =>
      rw [readOutlines_of_some h, List.forall_mem_cons]
      exact ⟨fits_of_readOutline hfit h, ih (hfit.mono (suffix_of_readOutline h).isInfix)⟩

theorem failsOnly_settleOutline (outline : BlockOutline) :
    E.FailsOnly (outline.settle lookup) fun e =>
      maxReferenceDigits < e.digits ∧ ¬ outline.Fits := by
  cases outline with
  | finished block => exact Execution.failsOnly_pure block
  | line kind pieces =>
      refine Execution.FailsOnly.bind ?_ fun items => Execution.failsOnly_pure _
      refine (failsOnly_settlePieces pieces).mono ?_
      rintro e ⟨piece, hp, he⟩
      exact ⟨he.long, fun hfits => he.not_fits (hfits piece hp)⟩

theorem bodyOf_nil {s : List Char} {blocks : List Block} (hne : blocks ≠ []) :
    bodyOf s blocks [] = .ok ⟨blocks, hne⟩ := by
  rw [bodyOf, (Body.ofBlocks?_eq_some_iff blocks ⟨blocks, hne⟩).2 rfl]
  rfl

/-- A text that consists of blocks is parsed, or refused for a reference that is too long. -/
theorem outcome_of_parseBlocks {s : List Char} {u v : σ} {outcome : Except Refusal Body}
    (hrest : (readOutlines s).2 = []) (hne : (readOutlines s).1 ≠ [])
    (h : E.Gives (parseBlocks lookup s).run u outcome v) :
    (∃ body, outcome = .ok body) ∨ ∃ e, outcome = .error (.overlongReference e) ∧
      maxReferenceDigits < e.digits ∧ ¬ ReferencesFit s := by
  rw [parseBlocks_eq] at h
  rcases Execution.of_run_bind h with ⟨refusal, hfailed, rfl⟩ | ⟨blocks, t, hblocks, h⟩
  · obtain ⟨found, hfound, he⟩ := Execution.of_run_adapt hfailed
    cases found with
    | ok blocks => cases he
    | error e =>
        have hlong : E.FailsOnly ((readOutlines s).1.mapM (·.settle lookup)) fun e =>
            maxReferenceDigits < e.digits ∧ ¬ ReferencesFit s :=
          Execution.failsOnly_mapM fun outline ho => (failsOnly_settleOutline outline).mono
            fun e he => ⟨he.1, fun hfit => he.2 (fits_of_mem_readOutlines hfit outline ho)⟩
        rw [Except.error.inj he]
        exact .inr ⟨e, rfl, hlong _ e _ hfound⟩
  · have hblocks := Execution.ne_nil_of_run_mapM hne (Execution.of_run_adapt_ok hblocks)
    rw [hrest, askInVain_nil, adapt_pure, pure_bind, bodyOf_nil hblocks] at h
    exact .inl ⟨_, (Execution.of_run_mk_pure h).1⟩

/-- The outlines of a normalized text are all of it, unless it is a single newline. -/
theorem readOutlines_normalizeNewlines {s : List Char} (hne : Text.normalizeNewlines s ≠ ['\n']) :
    (readOutlines (Text.normalizeNewlines s)).2 = [] ∧
      (readOutlines (Text.normalizeNewlines s)).1 ≠ [] := by
  rw [Text.normalizeNewlines_eq] at hne ⊢
  split at hne
  · exact absurd rfl hne
  · rename_i hfilled
    rw [if_neg hfilled]
    obtain ⟨hrest, houtlines⟩ := readOutlines_of_filled fun line hl => Text.of_mem_filledLines hl
    exact ⟨hrest, houtlines hfilled⟩

end Markup

namespace Post
open Markup

variable {m : Type → Type} [Monad m] [LawfulMonad m] {σ : Type} {E : Execution m σ}
  {rules : List Rule} {lookup : Lookup m} {raw : List Char}

/-! ## The outcome of a post -/

/-- A prepared text is parsed in a memory that is empty at first. -/
theorem of_run_parsePrepared {text : List Char} {s t : σ} {outcome : Except Refusal Body}
    (h : E.Gives (parsePrepared lookup text).run s outcome t) :
    ∃ memo, (E.withMemory Memo).Gives (parseBlocks (memoize lookup) text).run ([], s) outcome
      (memo, t) := by
  obtain ⟨⟨found, memo⟩, hrun, rfl⟩ := Execution.of_map
    (show E.Gives (Prod.fst <$> (parseBlocks (memoize lookup) text).run.run []) s outcome t from h)
  exact ⟨memo, hrun⟩

theorem parsePrepared_newline (lookup : Lookup m) :
    parsePrepared lookup ['\n'] = throw (.syntaxError emptyPost) := by
  rw [parsePrepared, parseBlocks_newline]
  exact map_pure (f := m) _ _

/-- Only normalized texts are parsed. -/
theorem exists_filtered_of_prepare {text : List Char}
    (h : outcomeOf (prepare rules raw) = .ok text) :
    ∃ filtered, outcomeOf (Rule.applyAll rules raw) = .ok filtered ∧
      text = Text.normalizeNewlines filtered := by
  obtain ⟨filtered, hfiltered, htext⟩ := ok_of_bind h
  exact ⟨filtered, hfiltered, (Except.ok.inj htext).symm⟩

/-- What can come of a prepared text: a single newline is refused as it is, and any other text
is parsed or refused for a reference that is too long. -/
theorem outcome_of_parsePrepared {text : List Char} (h : outcomeOf (prepare rules raw) = .ok text)
    {s t : σ} {outcome : Except Refusal Body}
    (hrun : E.Gives (parsePrepared lookup text).run s outcome t) :
    (text = ['\n'] ∧ outcome = .error (.syntaxError emptyPost) ∧ t = s) ∨
    (text ≠ ['\n'] ∧ ∃ body, outcome = .ok body) ∨
    (text ≠ ['\n'] ∧ ∃ e, outcome = .error (.overlongReference e) ∧
      maxReferenceDigits < e.digits ∧ ¬ ReferencesFit text) := by
  obtain ⟨filtered, -, rfl⟩ := exists_filtered_of_prepare h
  by_cases hne : Text.normalizeNewlines filtered = ['\n']
  · rw [hne, parsePrepared_newline] at hrun
    exact .inl ⟨hne, Execution.of_run_mk_pure hrun⟩
  · obtain ⟨memo, hrun⟩ := of_run_parsePrepared hrun
    obtain ⟨hrest, houtlines⟩ := readOutlines_normalizeNewlines hne
    rcases outcome_of_parseBlocks hrest houtlines hrun with hok | hlong
    · exact .inr (.inl ⟨hne, hok⟩)
    · exact .inr (.inr ⟨hne, hlong⟩)

variable [Journal m]

/-- A note behind an action changes nothing of what comes of it. -/
theorem of_run_adapt_noted (hnote : ∀ record s u t, E.Gives (note record : m Unit) s u t → t = s)
    {ε ε' α : Type} {f : ε → ε'} {record : α → Record} {x : ExceptT ε m α} {s t : σ}
    {outcome : Except ε' α}
    (h : E.Gives (ExceptT.adapt f x >>= fun a => note (record a) >>= fun _ => pure a).run
      s outcome t) :
    ∃ found, E.Gives x.run s found t ∧ outcome = found.mapError f := by
  rcases Execution.of_run_bind h with ⟨failure, hfailed, rfl⟩ | ⟨a, u, ha, hnoted⟩
  · obtain ⟨found, hfound, he⟩ := Execution.of_run_adapt hfailed
    cases found with
    | ok a => cases he
    | error e =>
        obtain rfl := Except.error.inj he
        exact ⟨.error e, hfound, rfl⟩
  · rcases Execution.of_run_bind hnoted with ⟨_, hfailed, -⟩ | ⟨_, v, hdone, hlast⟩
    · obtain ⟨_, -, he⟩ := Execution.of_run_lift hfailed
      cases he
    · obtain ⟨_, hdone, -⟩ := Execution.of_run_lift hdone
      obtain ⟨rfl, rfl⟩ := Execution.of_run_pure hlast
      obtain rfl := hnote _ _ _ _ hdone
      exact ⟨.ok a, Execution.of_run_adapt_ok ha, rfl⟩

/-- A post fails with its rules, or comes to what its prepared text comes to. Where notes leave the
state as it is, only the prepared text is parsed in it. -/
theorem of_run_parse (hnote : ∀ record s u t, E.Gives (note record : m Unit) s u t → t = s)
    {s t : σ} {outcome : Except Rejection Body}
    (h : E.Gives (parse rules lookup raw).run s outcome t) :
    (∃ failure, outcomeOf (prepare rules raw) = .error failure ∧
      outcome = .error (.rule failure) ∧ t = s) ∨
    ∃ text found, outcomeOf (prepare rules raw) = .ok text ∧
      E.Gives (parsePrepared lookup text).run s found t ∧
      outcome = found.mapError Rejection.refused := by
  have hprepare := agrees_prepare (S := E.still) (m := m)
    (fun record => E.still_unit (hnote record)) rules raw
  rcases Execution.of_run_bind h with ⟨rejection, hfailed, rfl⟩ | ⟨text, u, htext, hrest⟩
  · obtain ⟨found, hfound, he⟩ := Execution.of_run_adapt hfailed
    obtain ⟨rfl, rfl⟩ := hprepare _ _ _ hfound
    cases hp : outcomeOf (prepare rules raw) with
    | ok text =>
        rw [hp] at he
        cases he
    | error failure =>
        rw [hp] at he
        obtain rfl := Except.error.inj he
        exact .inl ⟨failure, rfl, rfl, rfl⟩
  · obtain ⟨hok, rfl⟩ := hprepare _ _ _ (Execution.of_run_adapt_ok htext)
    obtain ⟨found, hfound, he⟩ := of_run_adapt_noted hnote hrest
    exact .inr ⟨text, found, hok.symm, hfound, he⟩

/-- A post is parsed unless it has no text. Whatever resolver answers and whatever it remembers, a
text that is prepared to a single newline is refused at its first position; every other text becomes
a body if its references are short enough to be numbers, and nothing but a reference that is too
long is held against it. -/
theorem parse_of_prepared {text : List Char} (h : outcomeOf (prepare rules raw) = .ok text)
    {σ : Type} [Journal (StateM σ)] (lookup : Lookup (StateM σ)) (memory : σ) :
    (text = ['\n'] ↔ ∃ filtered, outcomeOf (Rule.applyAll rules raw) = .ok filtered ∧
      ∀ c ∈ Text.dropCarriageReturns filtered, c = '\n') ∧
    (text = ['\n'] → ∃ error : SyntaxError,
      ((parse rules lookup raw).run.run memory).1 = .error (.refused (.syntaxError error)) ∧
        error.position = 0 ∧ error.line = 1 ∧ error.column = 1 ∧ error.remainder = ['\n']) ∧
    (text ≠ ['\n'] → ReferencesFit text →
      ∃ body, ((parse rules lookup raw).run.run memory).1 = .ok body ∧ body.blocks ≠ []) ∧
    ∀ rejection, ((parse rules lookup raw).run.run memory).1 = .error rejection →
      (text = ['\n'] ∧ rejection = .refused (.syntaxError emptyPost)) ∨
        ∃ e, rejection = .refused (.overlongReference e) ∧ maxReferenceDigits < e.digits := by
  obtain ⟨filtered, hfiltered, htext⟩ := exists_filtered_of_prepare h
  have hnewline : text = ['\n'] ↔ ∀ c ∈ Text.dropCarriageReturns filtered, c = '\n' := by
    rw [htext, Text.normalizeNewlines_eq_newline_iff]
  refine ⟨?_, ?_⟩
  · rw [hnewline]
    refine ⟨fun hall => ⟨filtered, hfiltered, hall⟩, ?_⟩
    rintro ⟨other, hother, hall⟩
    rwa [Except.ok.inj (hfiltered.symm.trans hother)]
  · generalize hrun : (parse rules lookup raw).run.run memory = run
    obtain ⟨outcome, later⟩ := run
    have hgives : (Execution.results (StateM σ)).Gives (parse rules lookup raw).run () outcome () :=
      ⟨memory, later, hrun⟩
    rcases of_run_parse (fun _ _ _ _ _ => rfl) hgives with
      ⟨failure, hfailed, -⟩ | ⟨prepared, found, hok, hfound, rfl⟩
    · rw [h] at hfailed
      cases hfailed
    · obtain rfl : text = prepared := Except.ok.inj (h.symm.trans hok)
      rcases outcome_of_parsePrepared h hfound with
        ⟨htext, rfl, -⟩ | ⟨hne, body, rfl⟩ | ⟨hne, e, rfl, hlong, hunfit⟩
      · refine ⟨fun _ => ⟨emptyPost, rfl, rfl, rfl, rfl, rfl⟩, fun hne => absurd htext hne, ?_⟩
        intro rejection hrejection
        exact .inl ⟨htext, (Except.error.inj hrejection).symm⟩
      · refine ⟨fun htext => absurd htext hne, fun _ _ => ⟨body, rfl, body.blocks_ne_nil⟩, ?_⟩
        intro rejection hrejection
        cases hrejection
      · refine ⟨fun htext => absurd htext hne, fun _ hfit => absurd hfit hunfit, ?_⟩
        intro rejection hrejection
        exact .inr ⟨e, (Except.error.inj hrejection).symm, hlong⟩

/-- A resolver that numbers its answers, and does not answer first of all. -/
def countingLookup : Lookup (StateM Nat) := fun _ => do
  let asked ← get
  set (asked + 1)
  return if asked = 0 then none else some (Nat.toDigits 10 asked)

/-- A post of marks without counterparts, which a rule fills in. -/
def crookedPost : List Char := "x*a\r\n\r\n\x60\x60\x60\n>>7 >>3\\".toList

theorem parse_of_prepared_of_crookedPost :
    outcomeOf (prepare [⟨['x'], ['#', '~']⟩] crookedPost) =
        .ok "#~*a\n\x60\x60\x60\n>>7 >>3\\\n".toList ∧
      ReferencesFit "#~*a\n\x60\x60\x60\n>>7 >>3\\\n".toList ∧
      ∃ body, ((parse [⟨['x'], ['#', '~']⟩] countingLookup crookedPost).run.run 0).1 = .ok body ∧
        body.blocks ≠ [] := by
  have hprepared : outcomeOf (prepare [⟨['x'], ['#', '~']⟩] crookedPost) =
      .ok "#~*a\n\x60\x60\x60\n>>7 >>3\\\n".toList := by
    decide +kernel
  have hfit : ReferencesFit "#~*a\n\x60\x60\x60\n>>7 >>3\\\n".toList :=
    .of_length_le (by decide)
  exact ⟨hprepared, hfit,
    (parse_of_prepared hprepared countingLookup 0).2.2.1 (by decide) hfit⟩

end Post

end Imageboard
