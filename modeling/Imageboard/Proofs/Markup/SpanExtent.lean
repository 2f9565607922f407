import Imageboard.Proofs.Markup.LineScan

/-!
How far spans go. The units of a line lead from position to position; a span goes from its opening
delimiter to the first position between units at which the delimiter stands again, and holds at
least one unit. Where there is no such position nothing is read and the cursor stays.
-/
namespace Imageboard.Markup

/-! ## Positions between units -/

/-- The units that lead from one position of a text to another: a backslash with the character
behind it, or a character that is no backslash. No unit reaches over the end of the line. -/
inductive UnitsBetween (text : List Char) : Nat → List CharUnit → Nat → Prop
  | here (p : Nat) : UnitsBetween text p [] p
  | escaped {p q : Nat} {c : Char} {us : List CharUnit} (hb : text[p]? = some '\\')
      (hc : text[p + 1]? = some c) (hn : c ≠ '\n') (more : UnitsBetween text (p + 2) us q) :
      UnitsBetween text p (⟨true, c⟩ :: us) q
  | literal {p q : Nat} {c : Char} {us : List CharUnit} (hc : text[p]? = some c) (hb : c ≠ '\\')
      (hn : c ≠ '\n') (more : UnitsBetween text (p + 1) us q) :
      UnitsBetween text p (⟨false, c⟩ :: us) q

def StandsAt (marker text : List Char) (p : Nat) : Prop := marker <+: text.drop p

/-- The units that lead to the first position between units at which a delimiter stands. -/
structure LeadsTo (delimiter text : List Char) (start : Nat) (us : List CharUnit) (q : Nat) :
    Prop where
  units : UnitsBetween text start us q
  stands : StandsAt delimiter text q
  first : ∀ us' q', UnitsBetween text start us' q' → q' < q → ¬ StandsAt delimiter text q'

/-- A span whose opening delimiter is at `p` and whose closing one is at `q`. -/
structure SpanBetween (delimiter text : List Char) (p : Nat) (us : List CharUnit) (q : Nat) :
    Prop where
  opens : StandsAt delimiter text p
  closes : LeadsTo delimiter text (p + delimiter.length) us q
  holds : p + delimiter.length < q

variable {text delimiter : List Char} {p q start : Nat} {us : List CharUnit}

theorem UnitsBetween.le (h : UnitsBetween text p us q) : p ≤ q := by
  induction h with
  | here p => exact Nat.le_refl p
  | escaped _ _ _ _ ih => omega
  | literal _ _ _ _ ih => omega

theorem UnitsBetween.ne_nil (h : UnitsBetween text p us q) (hlt : p < q) : us ≠ [] := by
  rintro rfl
  cases h with
  | here => exact Nat.lt_irrefl p hlt

theorem UnitsBetween.lt (h : UnitsBetween text p us q) (hne : us ≠ []) : p < q := by
  cases h with
  | here => exact absurd rfl hne
  | escaped _ _ _ more => exact Nat.lt_of_lt_of_le (by omega) more.le
  | literal _ _ _ more => exact Nat.lt_of_lt_of_le (by omega) more.le

theorem drop_eq_cons_iff {c : Char} {s : List Char} :
    text.drop p = c :: s ↔ text[p]? = some c ∧ text.drop (p + 1) = s := by
  rw [← List.head?_drop, ← List.tail_drop]
  cases text.drop p with
  | nil => simp
  | cons d rest => simp

theorem dropMarker?_drop_iff {marker rest : List Char} :
    dropMarker? marker (text.drop p) = some rest ↔
      StandsAt marker text p ∧ text.drop (p + marker.length) = rest := by
  rw [dropMarker?_eq_some_iff, ← List.drop_drop]
  constructor
  · intro h
    rw [h, List.drop_left]
    exact ⟨⟨rest, h.symm⟩, rfl⟩
  · rintro ⟨⟨after, h⟩, rfl⟩
    rw [← h, List.drop_left]

theorem dropMarker?_of_standsAt {marker : List Char} (h : StandsAt marker text p) :
    dropMarker? marker (text.drop p) = some (text.drop (p + marker.length)) :=
  dropMarker?_drop_iff.2 ⟨h, rfl⟩

/-! ## The way to the closing delimiter -/

theorem LeadsTo.here (h : StandsAt delimiter text start) : LeadsTo delimiter text start [] start where
  units := .here start
  stands := h
  first := by
    intro us' q' hunits hlt
    exact absurd hunits.le (Nat.not_le.2 hlt)

theorem LeadsTo.escaped {c : Char} (hb : text[start]? = some '\\')
    (hc : text[start + 1]? = some c) (hn : c ≠ '\n') (hnot : ¬ StandsAt delimiter text start)
    (h : LeadsTo delimiter text (start + 2) us q) :
    LeadsTo delimiter text start (⟨true, c⟩ :: us) q where
  units := .escaped hb hc hn h.units
  stands := h.stands
  first := by
    intro us' q' hunits hlt
    cases hunits with
    | here => exact hnot
    | escaped _ _ _ more => exact h.first _ q' more hlt
    | literal hc' hb' => exact absurd (Option.some.inj (hc'.symm.trans hb)) hb'

theorem LeadsTo.literal {c : Char} (hc : text[start]? = some c) (hb : c ≠ '\\') (hn : c ≠ '\n')
    (hnot : ¬ StandsAt delimiter text start) (h : LeadsTo delimiter text (start + 1) us q) :
    LeadsTo delimiter text start (⟨false, c⟩ :: us) q where
  units := .literal hc hb hn h.units
  stands := h.stands
  first := by
    intro us' q' hunits hlt
    cases hunits with
    | here => exact hnot
    | escaped hb' => exact absurd (Option.some.inj (hc.symm.trans hb')) hb
    | literal _ _ _ more => exact h.first _ q' more hlt

/-- Reading up to a delimiter finds the way to it. -/
theorem readToDelimiter_of_leadsTo (hd : delimiter ≠ [])
    (h : LeadsTo delimiter text start us q) : readToDelimiter delimiter (text.drop start) =
      some (us.map (·.char), text.drop (q + delimiter.length)) := by
  obtain ⟨hunits, hstands, hfirst⟩ := h
  induction hunits with
  | here p => exact readToDelimiter_of_marker hd (dropMarker?_of_standsAt hstands)
  | @escaped p q c us hb hc hn more ih =>
      have hnot : ¬ StandsAt delimiter text p := by
        apply hfirst [] p (.here p)
        have := more.le
        omega
      have hmore := ih hstands fun us' q' hunits => hfirst _ q' (.escaped hb hc hn hunits)
      have hmark := dropMarker?_eq_none_iff.2 hnot
      rw [drop_eq_cons_iff.2 ⟨hb, drop_eq_cons_iff.2 ⟨hc, rfl⟩⟩] at hmark ⊢
      rw [readToDelimiter_escaped hmark hn, hmore]
      rfl
  | @literal p q c us hc hb hn more ih =>
      have hnot : ¬ StandsAt delimiter text p := by
        apply hfirst [] p (.here p)
        have := more.le
        omega
      have hmore := ih hstands fun us' q' hunits => hfirst _ q' (.literal hc hb hn hunits)
      have hmark := dropMarker?_eq_none_iff.2 hnot
      rw [drop_eq_cons_iff.2 ⟨hc, rfl⟩] at hmark ⊢
      rw [readToDelimiter_literal hmark hn hb, hmore]
      rfl

/-- What is read up to a delimiter are the units on the way to it. -/
theorem exists_leadsTo_of_readToDelimiter {content rest : List Char}
    (h : readToDelimiter delimiter (text.drop start) = some (content, rest)) :
    ∃ us q, LeadsTo delimiter text start us q ∧ content = us.map (·.char) ∧
      rest = text.drop (q + delimiter.length) := by
  generalize hs : text.drop start = s at h
  fun_induction readToDelimiter delimiter s generalizing start content rest with
  | case1 =>
      obtain ⟨after, ha, he⟩ := Option.map_eq_some_iff.1 h
      obtain ⟨rfl, rfl⟩ := Prod.mk.inj he
      rw [← hs] at ha
      obtain ⟨hstands, rfl⟩ := dropMarker?_drop_iff.1 ha
      exact ⟨[], start, .here hstands, rfl, rfl⟩
  | case2 c s after ha =>
      obtain ⟨rfl, rfl⟩ := Prod.mk.inj (Option.some.inj h)
      rw [← hs] at ha
      obtain ⟨hstands, rfl⟩ := dropMarker?_drop_iff.1 ha
      exact ⟨[], start, .here hstands, rfl, rfl⟩
  | case3 => cases h
  | case4 => cases h
  | case5 => cases h
  | case6 c s hn _ hmark ih =>
      obtain ⟨found, hfound, rfl⟩ := exists_of_map_value h
      obtain ⟨hb, hs'⟩ := drop_eq_cons_iff.1 hs
      obtain ⟨hc, hs''⟩ := drop_eq_cons_iff.1 hs'
      obtain ⟨us, q, hlead, rfl, rfl⟩ := ih hs'' hfound
      rw [← hs] at hmark
      have hnot := dropMarker?_eq_none_iff.1 hmark
      exact ⟨⟨true, c⟩ :: us, q, LeadsTo.escaped hb hc hn hnot hlead, rfl, rfl⟩
  | case7 c s hmark hn hb ih =>
      obtain ⟨found, hfound, rfl⟩ := exists_of_map_value h
      obtain ⟨hc, hs'⟩ := drop_eq_cons_iff.1 hs
      obtain ⟨us, q, hlead, rfl, rfl⟩ := ih hs' hfound
      rw [← hs] at hmark
      have hnot := dropMarker?_eq_none_iff.1 hmark
      exact ⟨⟨false, c⟩ :: us, q, LeadsTo.literal hc hb hn hnot hlead, rfl, rfl⟩

/-! ## Spans at a cursor -/

/-- A span is read from its opening delimiter to its closing one, and nothing else is. -/
theorem readDelimited_drop_iff (hd : delimiter ≠ []) {content rest : List Char} :
    readDelimited delimiter (text.drop p) = some (content, rest) ↔
      ∃ us q, SpanBetween delimiter text p us q ∧ content = us.map (·.char) ∧
        rest = text.drop (q + delimiter.length) := by
  constructor
  · intro h
    obtain ⟨opened, hopened, hread, hne⟩ := exists_opened_of_readDelimited h
    obtain ⟨hopens, rfl⟩ := dropMarker?_drop_iff.1 ((dropMarker?_eq_some_iff _ _ _).2 hopened)
    obtain ⟨us, q, hcloses, rfl, rfl⟩ := exists_leadsTo_of_readToDelimiter hread
    have hus : us ≠ [] := by
      rintro rfl
      exact hne rfl
    exact ⟨us, q, ⟨hopens, hcloses, hcloses.units.lt hus⟩, rfl, rfl⟩
  · rintro ⟨us, q, ⟨hopens, hcloses, hholds⟩, rfl, rfl⟩
    have hne : us.map (·.char) ≠ [] := by
      rw [Ne, List.map_eq_nil_iff]
      exact hcloses.units.ne_nil hholds
    simp only [readDelimited, dropMarker?_of_standsAt hopens, readToDelimiter_of_leadsTo hd hcloses,
      Option.bind_eq_bind, Option.bind_some, if_neg hne]

theorem SpanBetween.end_le (hd : delimiter ≠ []) (h : SpanBetween delimiter text p us q) :
    q + delimiter.length ≤ text.length := by
  have hle := h.closes.stands.length_le
  have hpos := List.length_pos_iff.2 hd
  rw [List.length_drop] at hle
  omega

/-- A span is read exactly where one stands: its units are unescaped and the cursor is moved behind
its closing delimiter, the first one between units. Everywhere else the cursor stays. -/
theorem attempt_readDelimited (style : Style) (c : Cursor) :
    (∀ content after, c.attempt (readDelimited style.delimiter) = (some content, after) ↔
      ∃ us q, SpanBetween style.delimiter c.text c.position us q ∧ content = us.map (·.char) ∧
        after = ⟨c.text, q + style.delimiter.length⟩) ∧
    (c.attempt (readDelimited style.delimiter) = (none, c) ↔
      ¬ ∃ us q, SpanBetween style.delimiter c.text c.position us q) := by
  have hd := style.delimiter_ne_nil
  constructor
  · intro content after
    rw [Cursor.attempt_eq_some_iff]
    constructor
    · rintro ⟨rest, hread, rfl⟩
      obtain ⟨us, q, hspan, hcontent, rfl⟩ := (readDelimited_drop_iff hd).1 hread
      exact ⟨us, q, hspan, hcontent, Cursor.leaving_drop (hspan.end_le hd)⟩
    · rintro ⟨us, q, hspan, hcontent, rfl⟩
      exact ⟨_, (readDelimited_drop_iff hd).2 ⟨us, q, hspan, hcontent, rfl⟩,
        (Cursor.leaving_drop (hspan.end_le hd)).symm⟩
  · rw [Cursor.attempt_eq_none_iff, ← not_iff_not, not_not, ← ne_eq, Option.ne_none_iff_exists']
    constructor
    · rintro ⟨found, hread⟩
      obtain ⟨us, q, hspan, -, -⟩ := (readDelimited_drop_iff hd).1 hread
      exact ⟨us, q, hspan⟩
    · rintro ⟨us, q, hspan⟩
      exact ⟨_, (readDelimited_drop_iff hd).2 ⟨us, q, hspan, rfl, rfl⟩⟩

example : Cursor.attempt (readDelimited Style.strong.delimiter) ⟨"a**\\***b".toList, 1⟩ =
    (some ['*'], ⟨"a**\\***b".toList, 7⟩) := by decide +kernel

end Imageboard.Markup
