import Imageboard.Proofs.Markup.LineWalk
import Imageboard.Proofs.Markup.RoundTrip

/-!
Texts one behind the other. Only a fence that is not closed looks ahead: a text that is parsed, and
in which no paragraph is a line that could open code, is parsed alike whatever follows. What follows
is parsed as it is on its own, and where it is refused the whole is refused at the same place of it.
-/
namespace Imageboard.Markup

/-! ## Lines that could open code -/

/-- A line that could open code: the fence, then blanks if any, then letters and digits if any. -/
def OpensFence (line : List Char) : Prop :=
  ∃ blanks word, line = fence ++ blanks ++ word ∧ blanks.all Text.isInlineBlank ∧
    word.all Text.isAlphanumeric

theorem opensFence_of_fenceWord? {line word : List Char} (h : fenceWord? line = some word) :
    OpensFence line := by
  rw [fenceWord?_eq] at h
  obtain ⟨opened, ho, h⟩ := Option.bind_eq_some_iff.1 h
  split at h
  · rename_i hword
    refine ⟨opened.takeWhile Text.isInlineBlank, opened.dropWhile Text.isInlineBlank, ?_, ?_, hword⟩
    · rw [List.append_assoc, List.takeWhile_append_dropWhile]
      exact (dropMarker?_eq_some_iff fence line opened).1 ho
    · exact List.all_takeWhile
  · cases h

/-- A line with a word after its fence is neither a header nor a quote. -/
theorem kind_of_fenceWord? {line content word : List Char} {kind : LineKind}
    (hword : fenceWord? line = some word) (h : lineContent? line = some (kind, content)) :
    kind = .paragraph := by
  obtain ⟨blanks, word, rfl, -⟩ := opensFence_of_fenceWord? hword
  have hhead : (fence ++ blanks ++ word).head? = some '\x60' := rfl
  unfold lineContent? at h
  grind

/-! ## What follows the lines of a block -/

/-- Code that has been closed stays closed there. -/
theorem codeAt?_append {lines : List (List Char)} {block : Block} {n : Nat}
    (h : codeAt? lines = some (block, n)) (more : List (List Char)) :
    codeAt? (lines ++ more) = some (block, n) := by
  unfold codeAt? at h
  split at h
  · rename_i opening first others
    obtain ⟨word, hw, h⟩ := Option.bind_eq_some_iff.1 h
    obtain ⟨k, hk, h⟩ := Option.bind_eq_some_iff.1 h
    have hlt := (List.findIdx?_eq_some_iff_getElem.1 hk).1
    have hfound : (others ++ more).findIdx? (· = fence) = some k := by
      rw [List.findIdx?_append, hk, Option.some_or]
    rw [List.cons_append, List.cons_append, codeAt?, hw, Option.bind_eq_bind, Option.bind_some,
      hfound, Option.bind_eq_bind, Option.bind_some, List.take_append_of_le_length hlt.le]
    exact h
  · cases h

/-- Lines behind the first block have no part in it, unless that is a paragraph of a line that could
open code. -/
theorem outlineAt?_append {lines : List (List Char)} {outline : BlockOutline} {n : Nat}
    (h : outlineAt? lines = some (outline, n))
    (hclosed : ∀ line pieces, lines = line :: lines.drop n →
      outline = .line .paragraph pieces → ¬ OpensFence line) (more : List (List Char)) :
    outlineAt? (lines ++ more) = some (outline, n) := by
  unfold outlineAt? at h
  split at h
  · rename_i block k hc
    rw [outlineAt?, codeAt?_append hc]
    exact h
  · obtain ⟨⟨kind, content⟩, hl, he⟩ := Option.map_eq_some_iff.1 h
    obtain ⟨rfl, rfl⟩ := Prod.mk.inj he
    cases lines with
    | nil => cases hl
    | cons line others =>
        -- A line that could open code is a paragraph only while no fence closes the code.
        have hword : fenceWord? line = none := by
          cases hw : fenceWord? line with
          | none => rfl
          | some word =>
              obtain rfl := kind_of_fenceWord? hw hl
              exact absurd (opensFence_of_fenceWord? hw) (hclosed line _ rfl rfl)
        have hcode : codeAt? (line :: others ++ more) = none := by
          rw [List.cons_append, codeAt?.eq_def]
          split
          · rename_i heq
            obtain ⟨rfl, -⟩ := List.cons.inj heq
            rw [hword]
            rfl
          · rfl
        rw [outlineAt?, hcode]
        exact h

/-- Text behind the first block has no part in it, unless that is a paragraph of a line that could
open code. -/
theorem readOutline_append {s rest : List Char} {outline : BlockOutline}
    (h : readOutline s = some (outline, rest))
    (hclosed : ∀ line pieces, s = line ++ '\n' :: rest → outline = .line .paragraph pieces →
      ¬ OpensFence line) (more : List Char) :
    readOutline (s ++ more) = some (outline, rest ++ more) := by
  obtain ⟨lines, last, hlines, hlast, rfl⟩ := exists_lines s
  obtain ⟨others, final, hothers, hfinal, hmore⟩ := exists_lines (last ++ more)
  rw [readOutline_lines hlines hlast] at h
  obtain ⟨⟨outline', n⟩, ho, he⟩ := Option.map_eq_some_iff.1 h
  obtain ⟨rfl, rfl⟩ := Prod.mk.inj he
  obtain ⟨-, hle⟩ := outlineAt?_takes ho
  have hall : ∀ line ∈ lines ++ others, '\n' ∉ line := List.forall_mem_append.2 ⟨hlines, hothers⟩
  have hsplit : terminated lines ++ last ++ more = terminated (lines ++ others) ++ final := by
    rw [terminated_append, List.append_assoc, List.append_assoc, hmore]
  have hrest : terminated ((lines ++ others).drop n) ++ final =
      terminated (lines.drop n) ++ last ++ more := by
    rw [List.drop_append_of_le_length hle, terminated_append, List.append_assoc, List.append_assoc,
      hmore]
  have hfirst : outlineAt? (lines ++ others) = some (outline', n) := by
    refine outlineAt?_append ho (fun line pieces hline hparagraph => ?_) others
    apply hclosed line pieces _ hparagraph
    rw [← List.cons_append, ← List.append_assoc, ← terminated_cons, ← hline]
  rw [hsplit, readOutline_lines hall hfinal, hfirst, ← hrest]
  rfl

/-! ## Blocks and where they come from -/

/-- The blocks of a text, each with the stretch of the text that it takes up. -/
def sourcedBlocks (lookup : Lookup Id) (s : List Char) : List (Block × List Char) :=
  match outcomeOf (readBlock lookup s) with
  | .ok (some (block, ⟨rest, _⟩)) =>
    (block, s.take (s.length - rest.length)) :: sourcedBlocks lookup rest
  | _ => []
termination_by s.length

/-- No paragraph of a text is a line that could open code. -/
def FencesClosed (lookup : Lookup Id) (s : List Char) : Prop :=
  ∀ line items, (.line .paragraph items, line ++ ['\n']) ∈ sourcedBlocks lookup s → ¬ OpensFence line

variable {lookup : Lookup Id}

theorem sourcedBlocks_of_none {s : List Char} (h : readOutline s = none) :
    sourcedBlocks lookup s = [] := by
  have hread := congrArg outcomeOf (map_readBlock lookup s)
  simp only [h, outcomeOf_map, outcomeOf_bind] at hread
  rw [sourcedBlocks]
  split
  · rename_i hfound
    rw [hfound] at hread
    cases hasked : outcomeOf (askInVain lookup LineKind.inOrder s) with
    | ok _ => rw [hasked] at hread; cases hread
    | error e => rw [hasked] at hread; cases hread
  · rfl

theorem sourcedBlocks_of_some {s rest : List Char} {outline : BlockOutline} {block : Block}
    (h : readOutline s = some (outline, rest))
    (hblock : outcomeOf (outline.settle lookup) = .ok block) :
    sourcedBlocks lookup s =
      (block, s.take (s.length - rest.length)) :: sourcedBlocks lookup rest := by
  have hread := congrArg outcomeOf (map_readBlock lookup s)
  simp only [h, outcomeOf_map, outcomeOf_bind, hblock] at hread
  rw [sourcedBlocks]
  split
  · rename_i found after hafter hfound
    rw [hfound] at hread
    obtain ⟨rfl, rfl⟩ := Prod.mk.inj (Option.some.inj (Except.ok.inj hread))
    rfl
  · rename_i hnot
    cases hfound : outcomeOf (readBlock lookup s) with
    | error e => rw [hfound] at hread; cases hread
    | ok found =>
        cases found with
        | none => rw [hfound] at hread; cases hread
        | some found => exact absurd hfound (hnot found.1 found.2.1 found.2.2)

/-- The blocks of a text, and their sources, which are what has been read of it. -/
theorem sourcedBlocks_eq {s : List Char} {blocks : List Block}
    (h : outcomeOf ((readOutlines s).1.mapM (·.settle lookup)) = .ok blocks) :
    (sourcedBlocks lookup s).map Prod.fst = blocks ∧
      ((sourcedBlocks lookup s).map Prod.snd).flatten ++ (readOutlines s).2 = s := by
  induction s using readOutlines.induct generalizing blocks with
  | case1 s hnone =>
      rw [readOutlines_of_none hnone] at h ⊢
      rw [sourcedBlocks_of_none hnone]
      exact ⟨Except.ok.inj h, rfl⟩
  | case2 s outline rest hread _ ih =>
      rw [readOutlines_of_some hread] at h ⊢
      rw [List.mapM_cons] at h
      obtain ⟨block, hblock, h⟩ := ok_of_bind h
      obtain ⟨others, hothers, h⟩ := ok_of_bind h
      obtain rfl : block :: others = blocks := Except.ok.inj h
      obtain ⟨hfst, hsnd⟩ := ih hothers
      have hsource : s.take (s.length - rest.length) ++ rest = s :=
        List.suffix_iff_eq_append.1 (suffix_of_readOutline hread)
      rw [sourcedBlocks_of_some hread hblock]
      constructor
      · rw [List.map_cons, hfst]
      · rw [List.map_cons, List.flatten_cons, List.append_assoc, hsnd, hsource]

/-! ## What follows a text -/

/-- A text that is read to its end is read alike whatever follows, and what follows as it is on its
own, unless some paragraph is a line that could open code. -/
theorem readOutlines_append {s : List Char} {blocks : List Block}
    (hend : (readOutlines s).2 = [])
    (hblocks : outcomeOf ((readOutlines s).1.mapM (·.settle lookup)) = .ok blocks)
    (hclosed : FencesClosed lookup s) (more : List Char) :
    readOutlines (s ++ more) =
      ((readOutlines s).1 ++ (readOutlines more).1, (readOutlines more).2) := by
  induction s using readOutlines.induct generalizing blocks with
  | case1 s hnone =>
      rw [readOutlines_of_none hnone] at hend ⊢
      obtain rfl : s = [] := hend
      rfl
  | case2 s outline rest hread _ ih =>
      rw [readOutlines_of_some hread] at hend hblocks ⊢
      rw [List.mapM_cons] at hblocks
      obtain ⟨block, hblock, htail⟩ := ok_of_bind hblocks
      obtain ⟨others, hothers, -⟩ := ok_of_bind htail
      rw [FencesClosed, sourcedBlocks_of_some hread hblock] at hclosed
      have hfirst : ∀ line pieces, s = line ++ '\n' :: rest →
          outline = .line .paragraph pieces → ¬ OpensFence line := by
        intro line pieces hs houtline
        have hsource : s.take (s.length - rest.length) = line ++ ['\n'] := by
          rw [hs, List.append_cons, List.length_append, Nat.add_sub_cancel, List.take_left]
        rw [houtline] at hblock
        obtain ⟨items, -, hitems⟩ := ok_of_bind hblock
        obtain rfl : Block.line .paragraph items = block := Except.ok.inj hitems
        rw [hsource] at hclosed
        exact hclosed line items List.mem_cons_self
      have hlater : FencesClosed lookup rest := by
        intro line items hmem
        exact hclosed line items (List.mem_cons_of_mem _ hmem)
      rw [readOutlines_of_some (readOutline_append hread hfirst more),
        ih hend hothers hlater]
      rfl

/-- The blocks of one body and then those of another. -/
def Body.append (body later : Body) : Body :=
  ⟨body.blocks ++ later.blocks, List.append_ne_nil_of_left_ne_nil body.blocks_ne_nil _⟩

/-- The refusal of a text when another text stands before it. -/
def Refusal.behind (before : List Char) : Refusal → Refusal
  | .syntaxError e => .syntaxError ⟨before ++ e.text, before.length + e.position, e.expected⟩
  | .overlongReference e => .overlongReference e

/-- Parsing settles the outlines, asks in vain and takes the blocks together. -/
theorem outcomeOf_parseBlocks (lookup : Lookup Id) (s : List Char) :
    outcomeOf (parseBlocks lookup s) =
      ((outcomeOf ((readOutlines s).1.mapM (·.settle lookup))).mapError .overlongReference >>=
        fun blocks =>
      (outcomeOf (askInVain lookup LineKind.inOrder (readOutlines s).2)).mapError
        .overlongReference >>= fun _ => bodyOf s blocks (readOutlines s).2) := by
  rw [parseBlocks_eq, outcomeOf_bind]
  refine congrArg _ (funext fun blocks => ?_)
  rw [outcomeOf_bind]
  rfl

/-- Nothing has been read of a text that has no block. -/
theorem rest_of_no_blocks {s : List Char}
    (h : outcomeOf ((readOutlines s).1.mapM (·.settle lookup)) = .ok []) :
    (readOutlines s).2 = s := by
  obtain ⟨hfst, hsnd⟩ := sourcedBlocks_eq h
  rw [List.map_eq_nil_iff] at hfst
  rw [hfst] at hsnd
  exact hsnd

/-- Whether blocks are taken together to a body is settled by the last of them. -/
theorem bodyOf_append (body : Body) (before : List Char) {s rest : List Char} {blocks : List Block}
    (hrest : rest <:+ s) (hread : blocks = [] → rest ≠ []) :
    bodyOf (before ++ s) (body.blocks ++ blocks) rest =
      match bodyOf s blocks rest with
      | .ok later => .ok (body.append later)
      | .error refusal => .error (refusal.behind before) := by
  have hplace : (before ++ s).length - rest.length = before.length + (s.length - rest.length) := by
    have hle := hrest.length_le
    rw [List.length_append]
    omega
  by_cases hblocks : blocks = []
  · subst hblocks
    have hwhole : Body.ofBlocks? (body.blocks ++ []) = some body :=
      (Body.ofBlocks?_eq_some_iff _ _).2 (List.append_nil _).symm
    have hnone : Body.ofBlocks? [] = none := rfl
    simp only [bodyOf, hwhole, hnone, if_neg (hread rfl), hplace]
    rfl
  · have hlater : Body.ofBlocks? blocks = some ⟨blocks, hblocks⟩ :=
      (Body.ofBlocks?_eq_some_iff _ _).2 rfl
    have hwhole : Body.ofBlocks? (body.blocks ++ blocks) = some (body.append ⟨blocks, hblocks⟩) :=
      (Body.ofBlocks?_eq_some_iff _ _).2 rfl
    simp only [bodyOf, hwhole, hlater, hplace]
    by_cases hend : rest = []
    · simp only [if_pos hend]
      rfl
    · simp only [if_neg hend]
      rfl

/-- The blocks of an outcome behind a body. -/
theorem map_blocks_behind (body : Body) (before : List Char) (outcome : Except Refusal Body) :
    Except.map Body.blocks (match outcome with
      | .ok later => .ok (body.append later)
      | .error refusal => .error (refusal.behind before)) =
    ((outcome.map Body.blocks).map (body.blocks ++ ·)).mapError (Refusal.behind before) := by
  cases outcome with
  | ok later => rfl
  | error refusal => rfl

/-! ## Two texts, one behind the other -/

/-- A text that is parsed, and in which no paragraph is a line that could open code, does not care
what follows: its blocks come first, and behind them what the rest is parsed to on its own. Where
the rest is refused the whole is refused at the same place of the rest. -/
theorem parseBlocks_append (resolve : Int → Option (List Char)) {s : List Char} {body : Body}
    (hparsed : outcomeOf (parseBlocks (lookupOf resolve) s) = .ok body)
    (hclosed : FencesClosed (lookupOf resolve) s) {more : List Char} (hmore : more ≠ []) :
    outcomeOf (parseBlocks (lookupOf resolve) (s ++ more)) =
      match outcomeOf (parseBlocks (lookupOf resolve) more) with
      | .ok later => .ok (body.append later)
      | .error refusal => .error (refusal.behind s) := by
  rw [outcomeOf_parseBlocks] at hparsed
  obtain ⟨blocks, hsettled, hparsed⟩ := exists_ok_of_bind hparsed
  obtain ⟨-, -, hbody⟩ := exists_ok_of_bind hparsed
  obtain ⟨hend, hblocks⟩ := rest_of_bodyOf hbody
  have hread := ok_of_mapError hsettled
  have hwhole : outcomeOf (((readOutlines s).1 ++ (readOutlines more).1).mapM
      (·.settle (lookupOf resolve))) =
        (outcomeOf ((readOutlines more).1.mapM (·.settle (lookupOf resolve)))).map
          (body.blocks ++ ·) := by
    rw [List.mapM_append, outcomeOf_bind, hread, hblocks]
    exact (congrArg outcomeOf (map_eq_pure_bind _ _).symm).trans (outcomeOf_map _ _)
  rw [outcomeOf_parseBlocks, outcomeOf_parseBlocks, readOutlines_append hend hread hclosed more]
  dsimp only
  rw [hwhole]
  cases hlater : outcomeOf ((readOutlines more).1.mapM (·.settle (lookupOf resolve))) with
  | error e => rfl
  | ok later =>
      cases outcomeOf (askInVain (lookupOf resolve) LineKind.inOrder (readOutlines more).2) with
      | error e => rfl
      | ok _ =>
          apply bodyOf_append body s (suffix_readOutlines more)
          rintro rfl
          rw [rest_of_no_blocks hlater]
          exact hmore

/-- Alone a fence is a paragraph, before more lines and another fence it opens code. -/
example :
    (outcomeOf (parseBlocks (lookupOf fun _ => none) fenceLine)).map Body.blocks =
        .ok [.line .paragraph [.plain fence]] ∧
      (outcomeOf (parseBlocks (lookupOf fun _ => none)
        (fenceLine ++ ("x\n".toList ++ fenceLine)))).map Body.blocks =
          .ok [.code ['x', '\n'] none] := by
  constructor
  · decide +kernel
  · decide +kernel

/-- Closed code, and a paragraph whose fence opens none. -/
def closedText : List Char := "\x60\x60\x60c\nx\n\x60\x60\x60\n\x60\x60\x60p.\n".toList

theorem not_opensFence_of_dot {line : List Char} (h : '.' ∈ line) : ¬ OpensFence line := by
  rintro ⟨blanks, word, rfl, hblanks, hword⟩
  rw [List.all_eq_true] at hblanks hword
  rcases List.mem_append.1 h with h | h
  · rcases List.mem_append.1 h with h | h
    · exact absurd h (by decide)
    · exact absurd (hblanks '.' h) (by decide)
  · exact absurd (hword '.' h) (by decide +kernel)

theorem fencesClosed_closedText : FencesClosed (lookupOf fun _ => none) closedText := by
  have hsources : sourcedBlocks (lookupOf fun _ => none) closedText =
      [(.code ['x', '\n'] (some ['c']), "\x60\x60\x60c\nx\n\x60\x60\x60\n".toList),
        (.line .paragraph [.plain "\x60\x60\x60p.".toList], "\x60\x60\x60p.\n".toList)] := by
    decide +kernel
  intro line items hmem
  rw [hsources] at hmem
  have hline : line ++ ['\n'] = "\x60\x60\x60p.\n".toList := by
    rcases List.mem_cons.1 hmem with h | h
    · cases h
    · exact congrArg Prod.snd (List.mem_singleton.1 h)
  have hdot : '.' ∈ line ++ ['\n'] := by
    rw [hline]
    decide
  exact not_opensFence_of_dot ((List.mem_append.1 hdot).resolve_right (by decide))

/-- Behind this text one text is parsed, and another refused at its second line. -/
theorem parseBlocks_append_to_closedText : ∃ body,
    outcomeOf (parseBlocks (lookupOf fun _ => none) closedText) = .ok body ∧
      FencesClosed (lookupOf fun _ => none) closedText ∧
      "y\n\x60\x60\x60\n".toList ≠ [] ∧ "y\n\n".toList ≠ [] ∧
      (outcomeOf (parseBlocks (lookupOf fun _ => none)
        (closedText ++ "y\n\x60\x60\x60\n".toList))).map Body.blocks =
          .ok [.code ['x', '\n'] (some ['c']), .line .paragraph [.plain "\x60\x60\x60p.".toList],
            .line .paragraph [.plain ['y']], .line .paragraph [.plain fence]] ∧
      (outcomeOf (parseBlocks (lookupOf fun _ => none)
        (closedText ++ "y\n\n".toList))).map Body.blocks =
          .error (.syntaxError ⟨closedText ++ "y\n\n".toList, 19, "a block"⟩) := by
  have hblocks : (outcomeOf (parseBlocks (lookupOf fun _ => none) closedText)).map Body.blocks =
      .ok [.code ['x', '\n'] (some ['c']), .line .paragraph [.plain "\x60\x60\x60p.".toList]] := by
    decide +kernel
  have hgood : (outcomeOf (parseBlocks (lookupOf fun _ => none)
      "y\n\x60\x60\x60\n".toList)).map Body.blocks =
        .ok [.line .paragraph [.plain ['y']], .line .paragraph [.plain fence]] := by
    decide +kernel
  have hbad : (outcomeOf (parseBlocks (lookupOf fun _ => none) "y\n\n".toList)).map Body.blocks =
      .error (.syntaxError ⟨"y\n\n".toList, 2, "a block"⟩) := by
    decide +kernel
  cases hparsed : outcomeOf (parseBlocks (lookupOf fun _ => none) closedText) with
  | error refusal =>
      rw [hparsed] at hblocks
      cases hblocks
  | ok body =>
      rw [hparsed] at hblocks
      refine ⟨body, rfl, fencesClosed_closedText, by decide, by decide, ?_, ?_⟩
      · rw [parseBlocks_append _ hparsed fencesClosed_closedText (by decide), map_blocks_behind,
          hgood, Except.ok.inj hblocks]
        rfl
      · rw [parseBlocks_append _ hparsed fencesClosed_closedText (by decide), map_blocks_behind,
          hbad]
        rfl

end Imageboard.Markup
