import Imageboard.Proofs.Markup.Reference

/-!
The grammar of a line said without a cursor: at every unit of the line, spans, references and links
are looked for afresh, and a unit at which there is none is plain text. The main statement is that
reading whole runs of plain text at once gives the same items.
-/
namespace Imageboard.Markup

/-! ## What may stand at a place of a line -/

/-- The style whose delimiter stands here. Two stars are never a single one. -/
def styleAt? : List Char → Option Style
  | '*' :: '*' :: _ => some .strong
  | '*' :: _ => some .emphasis
  | '~' :: _ => some .spoiler
  | '\x60' :: _ => some .code
  | _ => none

/-- The first boundary between units, their two ends included, at which a delimiter stands. -/
def boundary? (delimiter : List Char) (us : List CharUnit) : Option Nat :=
  (List.range (us.length + 1)).find? fun k => delimiter.isPrefixOf (sourceOf (us.drop k))

/-- What the first `k` units stand for, and what follows the delimiter after them. -/
def splitAtBoundary (delimiter : List Char) (us : List CharUnit) (k : Nat) :
    List Char × List Char :=
  ((us.take k).map (·.char), (sourceOf (us.drop k)).drop delimiter.length)

/-- A span opened here: at least one unit up to the first boundary where the delimiter stands
again. -/
def spanAt? (s : List Char) : Option (Piece × List Char) := do
  let style ← styleAt? s
  let us := units (s.drop style.delimiter.length)
  let k ← boundary? style.delimiter us
  if k = 0 then none
  else
    let (content, rest) := splitAtBoundary style.delimiter us k
    some (.item (.styled style content), rest)

/-- A reference that stands here: two angle brackets and all digits after them. -/
def referenceAt? : List Char → Option (Piece × List Char)
  | '>' :: '>' :: s =>
    let digits := s.takeWhile Text.isAsciiDigit
    if digits = [] then none else some (.reference digits, s.drop digits.length)
  | _ => none

/-- A link that stands here: a scheme and the run of address characters after it, less the last of
the run if that may not end an address. -/
def linkAt? (s : List Char) : Option (Piece × List Char) := do
  let scheme ← linkSchemes.find? fun scheme => scheme.isPrefixOf s
  let address := scheme ++ trimmedRun ((s.drop scheme.length).takeWhile isLinkChar)
  some (.item (.link address), s.drop address.length)

def markupAt? (s : List Char) : Option (Piece × List Char) :=
  (spanAt? s).or ((referenceAt? s).or (linkAt? s))

theorem length_sourceOf_drop_le (us : List CharUnit) (k : Nat) :
    (sourceOf (us.drop k)).length ≤ (sourceOf us).length := by
  have h : sourceOf (us.drop k) <:+ sourceOf us :=
    ⟨sourceOf (us.take k), by rw [sourceOf, sourceOf, ← List.flatMap_append,
      List.take_append_drop]; rfl⟩
  exact h.length_le

theorem length_delimiter_le {s : List Char} {style : Style} (h : styleAt? s = some style) :
    0 < style.delimiter.length ∧ style.delimiter.length ≤ s.length := by
  unfold styleAt? at h
  split at h <;> simp_all <;> subst h <;> simp [Style.delimiter]

theorem markupAt?_progresses : Reader.Progresses markupAt? := by
  intro s piece rest h
  simp only [markupAt?, Option.or_eq_some_iff] at h
  rcases h with h | ⟨-, h | ⟨-, h⟩⟩
  · obtain ⟨style, hs, h⟩ := Option.bind_eq_some_iff.1 h
    obtain ⟨k, hk, h⟩ := Option.bind_eq_some_iff.1 h
    have hd := length_delimiter_le hs
    have hle := length_sourceOf_drop_le (units (s.drop style.delimiter.length)) k
    rw [sourceOf_units, List.length_drop] at hle
    split at h
    · cases h
    · obtain ⟨-, rfl⟩ := Prod.mk.inj (Option.some.inj h)
      rw [List.length_drop]
      omega
  · unfold referenceAt? at h
    split at h
    · dsimp only at h
      split at h
      · cases h
      · obtain ⟨-, rfl⟩ := Prod.mk.inj (Option.some.inj h)
        simp only [List.length_drop, List.length_cons]
        omega
    · cases h
  · obtain ⟨scheme, hs, h⟩ := Option.bind_eq_some_iff.1 h
    obtain ⟨-, rfl⟩ := Prod.mk.inj (Option.some.inj h)
    have hpos : ∀ scheme ∈ linkSchemes, 0 < scheme.length := by decide
    have hlen := hpos scheme (List.mem_of_find?_eq_some hs)
    have hprefix := List.find?_some (p := fun scheme => List.isPrefixOf scheme s) hs
    have hle := (List.isPrefixOf_iff_prefix.1 hprefix).length_le
    rw [List.length_drop, List.length_append]
    omega

/-- The pieces of a line, looked for at every unit. -/
def scan (s : List Char) : List Piece :=
  match h : markupAt? s with
  | some (piece, rest) =>
    have : rest.length < s.length := markupAt?_progresses s piece rest h
    piece :: scan rest
  | none =>
    match hu : units s with
    | [] => []
    | u :: us =>
      have : (sourceOf us).length < s.length := by
        rw [← sourceOf_units s, hu, sourceOf_cons, List.length_append, CharUnit.source]
        split <;> simp
      .item (.plain [u.char]) :: scan (sourceOf us)
termination_by s.length

variable {m : Type → Type} [Monad m]

/-- The items of a line: its pieces with their references answered in order, and plain texts next
to each other joined. -/
def scanItems (lookup : Lookup m) (line : List Char) : m (List LineItem) :=
  mergePlain <$> (scan line).mapM (·.answer lookup)

/-! ## The alternatives of the grammar stand where the scan finds them -/

theorem dropMarker?_eq (marker s : List Char) : dropMarker? marker s =
    if marker.isPrefixOf s then some (s.drop marker.length) else none := by
  split
  · rename_i h
    obtain ⟨rest, rfl⟩ := List.isPrefixOf_iff_prefix.1 h
    rw [(dropMarker?_eq_some_iff marker _ rest).2 rfl, List.drop_left]
  · rename_i h
    rw [dropMarker?_eq_none_iff, ← List.isPrefixOf_iff_prefix]
    exact h

theorem boundary?_nil {delimiter : List Char} (hd : delimiter ≠ []) :
    boundary? delimiter [] = none := by
  cases delimiter with
  | nil => exact absurd rfl hd
  | cons d delimiter => rfl

theorem boundary?_here {delimiter : List Char} {us : List CharUnit}
    (h : delimiter.isPrefixOf (sourceOf us) = true) : boundary? delimiter us = some 0 := by
  rw [boundary?, List.range_succ_eq_map, List.find?_cons_of_pos (by exact h)]

theorem boundary?_cons {delimiter : List Char} {u : CharUnit} {us : List CharUnit}
    (h : delimiter.isPrefixOf (sourceOf (u :: us)) = false) :
    boundary? delimiter (u :: us) = (boundary? delimiter us).map (· + 1) := by
  rw [boundary?, List.range_succ_eq_map, List.find?_cons_of_neg (by exact Bool.eq_false_iff.1 h),
    List.find?_map]
  rfl

theorem readToDelimiter_here {delimiter s rest : List Char} (hd : delimiter ≠ [])
    (h : dropMarker? delimiter s = some rest) : readToDelimiter delimiter s =
      (boundary? delimiter (units s)).map (splitAtBoundary delimiter (units s)) := by
  have hs := (dropMarker?_eq_some_iff delimiter s rest).1 h
  have hprefix : delimiter.isPrefixOf (sourceOf (units s)) = true := by
    rw [sourceOf_units, hs]
    exact List.isPrefixOf_iff_prefix.2 (List.prefix_append delimiter rest)
  rw [readToDelimiter_of_marker hd h, boundary?_here hprefix, Option.map_some, splitAtBoundary,
    List.take_zero, List.drop_zero, sourceOf_units, hs, List.drop_left]
  rfl

theorem isPrefixOf_sourceOf_units {delimiter s : List Char}
    (h : dropMarker? delimiter s = none) : delimiter.isPrefixOf (sourceOf (units s)) = false := by
  rw [dropMarker?_eq] at h
  split at h
  · cases h
  · rename_i hp
    rw [sourceOf_units]
    exact Bool.eq_false_iff.2 hp

/-- On one line, reading up to the delimiter is looking for the first boundary where it stands. -/
theorem readToDelimiter_eq {delimiter s : List Char} (hd : delimiter ≠ []) (hs : '\n' ∉ s) :
    readToDelimiter delimiter s =
      (boundary? delimiter (units s)).map (splitAtBoundary delimiter (units s)) := by
  induction s using unit_induction with
  | nil => rw [readToDelimiter_nil hd, units_nil, boundary?_nil hd, Option.map_none]
  | lone =>
      cases h : dropMarker? delimiter ['\\'] with
      | some rest => exact readToDelimiter_here hd h
      | none =>
          have hu := isPrefixOf_sourceOf_units h
          rw [units_lone] at hu ⊢
          rw [readToDelimiter_lone h, boundary?_cons hu, boundary?_nil hd]
          rfl
  | escaped c s ih =>
      simp only [List.mem_cons, not_or] at hs
      cases h : dropMarker? delimiter ('\\' :: c :: s) with
      | some rest => exact readToDelimiter_here hd h
      | none =>
          have hu := isPrefixOf_sourceOf_units h
          rw [units_escaped] at hu ⊢
          rw [readToDelimiter_escaped h (Ne.symm hs.2.1), ih hs.2.2, boundary?_cons hu,
            Option.map_map, Option.map_map]
          rfl
  | literal c s hb ih =>
      simp only [List.mem_cons, not_or] at hs
      cases h : dropMarker? delimiter (c :: s) with
      | some rest => exact readToDelimiter_here hd h
      | none =>
          have hu := isPrefixOf_sourceOf_units h
          rw [units_literal hb] at hu ⊢
          rw [readToDelimiter_literal h (Ne.symm hs.1) hb, ih hs.2, boundary?_cons hu,
            Option.map_map, Option.map_map]
          rfl

/-- A span is closed by the first boundary where its delimiter stands, if units pass before. -/
theorem readDelimited_eq {delimiter s : List Char} (hd : delimiter ≠ []) (hs : '\n' ∉ s)
    (h : delimiter.isPrefixOf s = true) : readDelimited delimiter s =
      (boundary? delimiter (units (s.drop delimiter.length))).bind fun k =>
        if k = 0 then none
        else some (splitAtBoundary delimiter (units (s.drop delimiter.length)) k) := by
  have hrest : '\n' ∉ s.drop delimiter.length := fun hn => hs ((List.drop_suffix _ _).subset hn)
  simp only [readDelimited, dropMarker?_eq, h, if_true, Option.bind_eq_bind, Option.bind_some,
    readToDelimiter_eq hd hrest]
  cases hb : boundary? delimiter (units (s.drop delimiter.length)) with
  | none => rfl
  | some k =>
      have hlt : k < (units (s.drop delimiter.length)).length + 1 :=
        List.mem_range.1 (List.mem_of_find?_eq_some hb)
      have hzero : (splitAtBoundary delimiter (units (s.drop delimiter.length)) k).1 = [] ↔
          k = 0 := by
        simp only [splitAtBoundary, List.map_eq_nil_iff, List.take_eq_nil_iff]
        constructor
        · rintro (hk | hk)
          · exact hk
          · rw [hk, List.length_nil] at hlt
            omega
        · exact .inl
      simp only [Option.map_some, Option.bind_some, hzero]

theorem readDelimited_of_none {delimiter s : List Char} (h : dropMarker? delimiter s = none) :
    readDelimited delimiter s = none := by
  simp only [readDelimited, h, Option.bind_eq_bind, Option.bind_none]

/-- After two stars there is no emphasis: it would be empty. -/
theorem readDelimited_star_star (s : List Char) : readDelimited ['*'] ('*' :: '*' :: s) = none := by
  have h : readToDelimiter ['*'] ('*' :: s) = some ([], s) :=
    readToDelimiter_of_marker (List.cons_ne_nil _ _) rfl
  simp [readDelimited, dropMarker?, h]

theorem isPrefixOf_of_styleAt? {s : List Char} {style : Style} (h : styleAt? s = some style) :
    style.delimiter.isPrefixOf s = true := by
  unfold styleAt? at h
  split at h <;> simp_all <;> subst h <;> simp [Style.delimiter]

theorem read_styled_eq_spanAt? {s : List Char} {style : Style} (hs : '\n' ∉ s)
    (h : styleAt? s = some style) : (LineRule.styled style).read s = spanAt? s := by
  simp only [LineRule.read, spanAt?, h, Option.bind_eq_bind, Option.bind_some,
    readDelimited_eq style.delimiter_ne_nil hs (isPrefixOf_of_styleAt? h), Option.map_bind]
  refine Option.bind_congr fun k _ => ?_
  simp only [Function.comp_apply]
  split <;> rfl

/-- A span of a style whose delimiter does not stand here is not read. -/
theorem read_styled_eq_none {s : List Char} {style : Style} (h : styleAt? s ≠ some style) :
    (LineRule.styled style).read s = none := by
  cases s with
  | nil => exact LineRule.read_nil _
  | cons c s =>
      by_cases hc : c = (LineRule.styled style).mark
      · subst hc
        cases style with
        | spoiler => exact absurd rfl h
        | code => exact absurd rfl h
        | strong =>
            have hnone : dropMarker? ['*', '*'] ('*' :: s) = none := by
              cases s with
              | nil => rfl
              | cons d s =>
                  by_cases hd : d = '*'
                  · exact absurd (hd ▸ rfl) h
                  · simp [dropMarker?, Ne.symm hd]
            exact congrArg (Option.map _) (readDelimited_of_none hnone)
        | emphasis =>
            cases s with
            | nil => exact absurd rfl h
            | cons d s =>
                by_cases hd : d = '*'
                · subst hd
                  simp only [LineRule.read, Style.delimiter, LineRule.mark,
                    readDelimited_star_star, Option.map_none]
                · refine absurd ?_ h
                  simp [LineRule.mark, styleAt?, hd]
      · exact LineRule.read_of_ne_mark hc s

theorem read_reference_eq (s : List Char) : LineRule.reference.read s = referenceAt? s := by
  unfold referenceAt?
  split
  · rename_i s
    have hdrop : s.dropWhile Text.isAsciiDigit = s.drop (s.takeWhile Text.isAsciiDigit).length := by
      have h := congrArg (List.drop (s.takeWhile Text.isAsciiDigit).length)
        (List.takeWhile_append_dropWhile (p := Text.isAsciiDigit) (l := s))
      rwa [List.drop_left] at h
    simp only [LineRule.read, readReference, dropMarker?, if_true, Option.bind_eq_bind,
      Option.bind_some, hdrop]
    split <;> rfl
  · rename_i h
    have hnone : dropMarker? ['>', '>'] s = none := by
      rw [dropMarker?_eq_none_iff]
      rintro ⟨rest, hrest⟩
      exact h rest hrest.symm
    simp only [LineRule.read, readReference, hnone, Option.bind_eq_bind, Option.bind_none,
      Option.map_none]

theorem read_link_eq (s : List Char) : LineRule.link.read s = linkAt? s := by
  simp only [LineRule.read, readLink, linkAt?, dropMarker?_eq]
  induction linkSchemes with
  | nil => rfl
  | cons scheme schemes ih =>
      rw [List.findSome?_cons, List.find?_cons]
      cases h : scheme.isPrefixOf s with
      | false => simpa [h] using ih
      | true =>
          simp only [if_true, Option.map_some, readAddress_eq, Option.bind_eq_bind,
            Option.bind_some, List.length_append, List.drop_drop]

/-! ## One rule at most applies -/

/-- The rule that the front of a text calls for. -/
def ruleAt? (s : List Char) : Option LineRule :=
  match styleAt? s with
  | some style => some (.styled style)
  | none =>
    if s.head? = some LineRule.reference.mark then some .reference
    else if s.head? = some LineRule.link.mark then some .link
    else none

theorem read_eq_none_of_ruleAt? {rule : LineRule} {s : List Char} (h : ruleAt? s ≠ some rule) :
    rule.read s = none := by
  cases rule with
  | styled style =>
      apply read_styled_eq_none
      intro hstyle
      exact h (by rw [ruleAt?, hstyle])
  | reference | link =>
      cases s with
      | nil => exact LineRule.read_nil _
      | cons c s =>
          apply LineRule.read_of_ne_mark
          rintro rfl
          exact h rfl

theorem ruleAt?_of_read {rule : LineRule} {s : List Char} (h : rule.read s ≠ none) :
    ruleAt? s = some rule := by
  by_contra hne
  exact h (read_eq_none_of_ruleAt? hne)

theorem LineRule.mem_inOrder (rule : LineRule) : rule ∈ LineRule.inOrder := by
  cases rule with
  | styled style => cases style <;> decide
  | reference => decide
  | link => decide

theorem findSome?_eq_of_only {α β : Type} {f : α → Option β} {choices : List α} {a : α}
    (ha : a ∈ choices) (hother : ∀ x, x ≠ a → f x = none) : choices.findSome? f = f a := by
  cases hfound : f a with
  | none =>
      rw [List.findSome?_eq_none_iff]
      intro x _
      by_cases hx : x = a
      · rw [hx, hfound]
      · exact hother x hx
  | some b =>
      induction choices with
      | nil => exact absurd ha List.not_mem_nil
      | cons x choices ih =>
          rw [List.findSome?_cons]
          by_cases hx : x = a
          · rw [hx, hfound]
          · rw [hother x hx]
            exact ih ((List.mem_cons.1 ha).resolve_left (Ne.symm hx))

/-- In whatever order all rules are tried, the one that the front of the text calls for is read. -/
theorem findSome?_read {order : List LineRule} (hall : ∀ rule, rule ∈ order) (s : List Char) :
    order.findSome? (fun rule => rule.read s) = (ruleAt? s).bind fun rule => rule.read s := by
  cases hrule : ruleAt? s with
  | none =>
      rw [Option.bind_none, List.findSome?_eq_none_iff]
      intro rule _
      apply read_eq_none_of_ruleAt?
      simp [hrule]
  | some rule =>
      apply findSome?_eq_of_only (f := fun rule : LineRule => rule.read s) (hall rule)
      intro other hne
      apply read_eq_none_of_ruleAt?
      simp [hrule, Ne.symm hne]

/-- The alternatives tried in order find what stands at a place of a line. -/
theorem findSome?_inOrder {s : List Char} (hs : '\n' ∉ s) :
    LineRule.inOrder.findSome? (fun rule => rule.read s) = markupAt? s := by
  have hother : ∀ rule : LineRule, ruleAt? s ≠ some rule → rule.read s = none :=
    fun rule => read_eq_none_of_ruleAt?
  rw [findSome?_read LineRule.mem_inOrder, markupAt?, ← read_reference_eq, ← read_link_eq]
  cases hstyle : styleAt? s with
  | some style =>
      have hrule : ruleAt? s = some (.styled style) := by rw [ruleAt?, hstyle]
      rw [hother .reference (by simp [hrule]), hother .link (by simp [hrule]), hrule,
        Option.bind_some, read_styled_eq_spanAt? hs hstyle, Option.or_none, Option.or_none]
  | none =>
      have hspan : spanAt? s = none := by
        rw [spanAt?, hstyle]
        rfl
      rw [hspan, Option.none_or]
      cases hrule : ruleAt? s with
      | none => rw [hother .reference (by simp [hrule]), hother .link (by simp [hrule])]; rfl
      | some rule =>
          rw [Option.bind_some]
          cases rule with
          | styled style =>
              rw [hother .reference (by simp [hrule]), hother .link (by simp [hrule])]
              exact read_styled_eq_none (by simp [hstyle])
          | reference => rw [hother .link (by simp [hrule]), Option.or_none]
          | link => rw [hother .reference (by simp [hrule]), Option.none_or]

/-- Where plain text that has begun would not stop, no alternative applies. -/
theorem markupAt?_of_stopsPlain {s : List Char} (hs : '\n' ∉ s) (h : stopsPlain s = false) :
    markupAt? s = none := by
  rw [← findSome?_inOrder hs]
  refine List.findSome?_eq_none_iff.2 fun rule _ => ?_
  cases s with
  | nil => exact rule.read_nil
  | cons c s =>
      obtain ⟨hstop, hlink⟩ := Bool.or_eq_false_iff.1 h
      by_cases hc : c = rule.mark
      · cases rule with
        | styled style => subst hc; cases style <;> exact absurd hstop (by decide)
        | reference => subst hc; exact absurd hstop (by decide)
        | link =>
            rw [read_link_eq, linkAt?, Option.bind_eq_bind, List.find?_eq_none.2 ?_]
            · rfl
            · intro scheme hscheme hprefix
              rw [opensLink, List.any_eq_false] at hlink
              refine hlink scheme hscheme ?_
              rw [opensWith, dropMarker?_eq, if_pos hprefix]
              rfl
      · exact LineRule.read_of_ne_mark hc s

/-! ## Runs of plain text -/

theorem scan_of_some {s rest : List Char} {piece : Piece} (h : markupAt? s = some (piece, rest)) :
    scan s = piece :: scan rest := by
  rw [scan]
  split
  · rename_i hs
    rw [h] at hs
    obtain ⟨rfl, rfl⟩ := Prod.mk.inj (Option.some.inj hs)
    rfl
  · rename_i hs; rw [h] at hs; cases hs

theorem scan_of_none {s : List Char} {u : CharUnit} {us : List CharUnit}
    (h : markupAt? s = none) (hu : units s = u :: us) :
    scan s = .item (.plain [u.char]) :: scan (sourceOf us) := by
  rw [scan]
  split
  · rename_i hs; rw [h] at hs; cases hs
  · split
    · rename_i hs; rw [hu] at hs; cases hs
    · rename_i hs
      rw [hu] at hs
      obtain ⟨rfl, rfl⟩ := List.cons.inj hs
      rfl

theorem scan_nil : scan [] = [] := by
  rw [scan]
  split
  · rename_i hs; exact absurd (markupAt?_progresses [] _ _ hs) (Nat.not_lt_zero _)
  · rfl

/-- The pieces of plain text when every unit of it is read for itself. -/
def plainPieces (content : List Char) : List Piece := content.map fun c => .item (.plain [c])

/-- A run of literal characters holds nothing but plain text, unit by unit. -/
theorem scan_eq_append {forced : Bool} {s : List Char} (hs : '\n' ∉ s)
    (h : forced = true → markupAt? s = none) :
    scan s = plainPieces (readLiterals forced s).1 ++ scan (readLiterals forced s).2 := by
  -- Only the first character is taken unasked; behind it a run stops where markup could stand.
  induction s using unit_induction generalizing forced with
  | nil => rfl
  | lone =>
      have hm := markupAt?_of_stopsPlain hs (stopsPlain_backslash [])
      rw [scan_of_none hm units_lone, readLiterals_lone]
      rfl
  | escaped c s ih =>
      have hm := markupAt?_of_stopsPlain hs (stopsPlain_backslash (c :: s))
      simp only [List.mem_cons, not_or] at hs
      rw [scan_of_none hm (units_escaped c s), sourceOf_units,
        readLiterals_escaped forced (Ne.symm hs.2.1), @ih false hs.2.2 (by simp)]
      rfl
  | literal c s hb ih =>
      by_cases hgo : forced = true ∨ stopsPlain (c :: s) = false
      · have hm : markupAt? (c :: s) = none := hgo.elim h (markupAt?_of_stopsPlain hs)
        simp only [List.mem_cons, not_or] at hs
        rw [scan_of_none hm (units_literal hb s), sourceOf_units, readLiterals_literal hgo hb,
          @ih false hs.2 (by simp)]
        rfl
      · obtain ⟨hf, hstop⟩ := not_or.1 hgo
        obtain rfl := Bool.eq_false_iff.2 hf
        rw [Bool.not_eq_false] at hstop
        rw [readLiterals_of_stop hstop]
        rfl

/-- Plain texts of one character each join to one plain text. -/
theorem mergePlain_map_append {content : List Char} (h : content ≠ []) (items : List LineItem) :
    mergePlain (content.map (fun c => .plain [c]) ++ items) =
      joinPlain (.plain content) (mergePlain items) := by
  induction content with
  | nil => exact absurd rfl h
  | cons c content ih =>
      cases content with
      | nil => rfl
      | cons d content =>
          have hcons : mergePlain (.plain [c] :: ((d :: content).map (fun c => .plain [c]) ++
              items)) = joinPlain (.plain [c]) (joinPlain (.plain (d :: content))
                (mergePlain items)) := congrArg _ (ih (List.cons_ne_nil d content))
          rw [List.map_cons, List.cons_append, hcons]
          cases mergePlain items with
          | nil => rfl
          | cons item others => cases item <;> rfl

variable [LawfulMonad m]

/-- The items of a piece and of the pieces after it. -/
theorem merge_mapM_cons (lookup : Lookup m) (piece : Piece) (pieces : List Piece) :
    mergePlain <$> (piece :: pieces).mapM (·.answer lookup) =
      piece.answer lookup >>= fun item =>
        joinPlain item <$> (mergePlain <$> pieces.mapM (·.answer lookup)) := by
  simp only [List.mapM_cons, map_bind, bind_pure_comp, Functor.map_map]
  rfl

/-- The items of plain text read unit by unit and of the pieces after it. -/
theorem merge_mapM_plainPieces (lookup : Lookup m) {content : List Char} (h : content ≠ [])
    (pieces : List Piece) :
    mergePlain <$> (plainPieces content ++ pieces).mapM (·.answer lookup) =
      joinPlain (.plain content) <$> (mergePlain <$> pieces.mapM (·.answer lookup)) := by
  have hplain : (plainPieces content).mapM (·.answer lookup) =
      pure (content.map fun c => LineItem.plain [c]) := by
    rw [plainPieces, List.mapM_map]
    exact List.mapM_pure
  simp only [List.mapM_append, hplain, pure_bind, mergePlain_map_append h, bind_pure_comp,
    Functor.map_map]

theorem fst_readLiterals_ne_nil (c : Char) (s : List Char) :
    (readLiterals true (c :: s)).1 ≠ [] := by
  intro h
  rw [readLiterals.eq_def] at h
  simp only [Bool.not_true, Bool.false_and, Bool.false_eq_true, if_false] at h
  split at h
  · split at h
    · cases h
    · split at h <;> cases h
  · cases h

/-- Reading runs of plain text and looking for markup at every unit give the same items. -/
theorem merge_readPieces (lookup : Lookup m) {line : List Char} (hline : '\n' ∉ line) :
    mergePlain <$> (readPieces LineRule.inOrder line).1.mapM (·.answer lookup) =
      scanItems lookup line := by
  induction line using readPieces.induct LineRule.inOrder with
  | case1 s h =>
      rcases (readPiece_eq_none_iff LineRule.inOrder s).1 h with rfl | ⟨after, rfl⟩
      · rw [readPieces_of_none h, scanItems, scan_nil]
      · exact absurd List.mem_cons_self hline
  | case2 s piece rest h _ _ _ _ ih =>
      have hrest : '\n' ∉ rest := fun hn =>
        hline ((readPiece_leavesSuffix LineRule.inOrder s piece rest h).subset hn)
      rw [readPieces_of_some h, merge_mapM_cons, ih hrest]
      simp only [readPiece, findSome?_inOrder hline] at h
      cases hm : markupAt? s with
      | some found =>
          rw [hm] at h
          rw [scanItems, scanItems, scan_of_some (hm.trans h), merge_mapM_cons]
      | none =>
          rw [hm] at h
          obtain ⟨content, hc, rfl⟩ :=
            exists_of_map_value (f := fun content => Piece.item (.plain content)) h
          cases s with
          | nil => cases hc
          | cons c s =>
              have hn : c ≠ '\n' := fun hn => hline (hn ▸ List.mem_cons_self)
              simp only [readPlain, hn, if_false, Option.some.injEq] at hc
              have hne := fst_readLiterals_ne_nil c s
              have hrun := @scan_eq_append true (c :: s) hline fun _ => hm
              rw [hc] at hne hrun
              rw [scanItems, scanItems, hrun, merge_mapM_plainPieces lookup hne]
              exact pure_bind _ _

/-- A line is parsed to what looking for markup at each of its units finds, and never refused. -/
theorem parseLine_eq_scanItems (lookup : Lookup m) {line : List Char} (hne : line ≠ [])
    (hline : '\n' ∉ line) (hfit : ReferencesFit line) :
    (parseLine lookup line).run = Except.ok <$> scanItems lookup line := by
  rw [parseLine_of_line lookup hne hline, settlePieces_of_fits (fits_of_mem_readPieces hfit),
    merge_readPieces lookup hline, adapt_lift]
  rfl

theorem parseLine_eq_scanItems_of_spans_and_reference :
    "a **x\\*y**~>>007".toList ≠ [] ∧ '\n' ∉ "a **x\\*y**~>>007".toList ∧
      ReferencesFit "a **x\\*y**~>>007".toList ∧
      (parseLine (m := Id) (fun _ => some ['/', '7']) "a **x\\*y**~>>007".toList).run =
        Except.ok [.plain ['a', ' '], .styled .strong ['x', '*', 'y'], .plain ['~'],
          .reference 7 (some ['/', '7'])] := by
  have hfit : ReferencesFit "a **x\\*y**~>>007".toList := .of_length_le (by decide)
  refine ⟨by decide, by decide, hfit, ?_⟩
  rw [parseLine_eq_scanItems _ (by decide) (by decide) hfit]
  exact congrArg Except.ok (by decide +kernel)

end Imageboard.Markup
