import Imageboard.Markup.Refusal
import Imageboard.Proofs.Markup.Reading

/-!
The pieces of a line. Plain text is read unit by unit, every other alternative opens with its own
mark, and the pieces of a line end exactly where the line ends.
-/
namespace Imageboard.Markup

/-! ## Plain text -/

theorem opensLink_eq_false {c : Char} (h : c ≠ 'h') (s : List Char) :
    opensLink (c :: s) = false := by
  have hh : dropMarker? "http://".toList (c :: s) = none := dropMarker?_cons_of_ne (Ne.symm h) _ s
  have hs : dropMarker? "https://".toList (c :: s) = none := dropMarker?_cons_of_ne (Ne.symm h) _ s
  simp only [opensLink, linkSchemes, List.any_cons, List.any_nil, opensWith, hh, hs]
  rfl

theorem stopsPlain_backslash (s : List Char) : stopsPlain ('\\' :: s) = false := by
  simp only [stopsPlain, opensLink_eq_false (c := '\\') (by decide), Bool.or_false]
  decide

theorem stopsPlain_newline (s : List Char) : stopsPlain ('\n' :: s) = true := by
  simp only [stopsPlain, Bool.or_eq_true]
  exact .inl (by decide)

theorem stopsPlain_line (line after : List Char) :
    stopsPlain (line ++ '\n' :: after) = stopsPlain line := by
  cases line with
  | nil => exact stopsPlain_newline after
  | cons c line =>
      have h := opensLink_line (c :: line) after
      rw [List.cons_append] at h
      simp only [List.cons_append, stopsPlain, h]

theorem readLiterals_of_stop {s : List Char} (h : stopsPlain s = true) :
    readLiterals false s = ([], s) := by
  cases s with
  | nil => rfl
  | cons c s => rw [readLiterals.eq_def]; simp [h]

theorem readLiterals_lone (forced : Bool) : readLiterals forced ['\\'] = (['\\'], []) := by
  rw [readLiterals.eq_def]
  simp [stopsPlain_backslash]

theorem readLiterals_lone_newline (forced : Bool) (s : List Char) :
    readLiterals forced ('\\' :: '\n' :: s) = (['\\'], '\n' :: s) := by
  rw [readLiterals.eq_def]
  simp [stopsPlain_backslash, readLiterals_of_stop (stopsPlain_newline s)]

theorem readLiterals_escaped (forced : Bool) {c : Char} (hc : c ≠ '\n') (s : List Char) :
    readLiterals forced ('\\' :: c :: s) =
      (c :: (readLiterals false s).1, (readLiterals false s).2) := by
  rw [readLiterals.eq_def]
  simp [stopsPlain_backslash, hc]

theorem readLiterals_literal {forced : Bool} {c : Char} {s : List Char}
    (h : forced = true ∨ stopsPlain (c :: s) = false) (hb : c ≠ '\\') :
    readLiterals forced (c :: s) =
      (c :: (readLiterals false s).1, (readLiterals false s).2) := by
  rw [readLiterals.eq_def]
  rcases h with rfl | h
  · simp [hb]
  · simp [h, hb]

theorem readLiterals_suffix (forced : Bool) (s : List Char) : (readLiterals forced s).2 <:+ s := by
  fun_induction readLiterals forced s with
  | case1 => exact List.suffix_rfl
  | case2 => exact List.suffix_rfl
  | case3 => exact List.nil_suffix
  | case4 =>
      rename_i ih
      simp_all only
      exact ih.trans (List.suffix_cons _ _)
  | case5 =>
      rename_i ih
      simp_all only
      exact ih.trans ((List.suffix_cons _ _).trans (List.suffix_cons _ _))
  | case6 =>
      rename_i ih
      simp_all only
      exact ih.trans (List.suffix_cons _ _)

/-- Literal characters end with the line at the latest. -/
theorem readLiterals_line {forced : Bool} {line : List Char} (after : List Char)
    (h : line ≠ [] ∨ forced = false) (hline : '\n' ∉ line) :
    readLiterals forced (line ++ '\n' :: after) =
      ((readLiterals forced line).1, (readLiterals forced line).2 ++ '\n' :: after) := by
  induction line using unit_induction generalizing forced with
  | nil =>
      obtain rfl := h.resolve_left (fun hn => hn rfl)
      exact readLiterals_of_stop (stopsPlain_newline after)
  | lone => rw [readLiterals_lone]; exact readLiterals_lone_newline forced after
  | escaped c s ih =>
      simp only [List.mem_cons, not_or] at hline
      simp only [List.cons_append, readLiterals_escaped forced (Ne.symm hline.2.1),
        ih (.inr rfl) hline.2.2]
  | literal c s hb ih =>
      simp only [List.mem_cons, not_or] at hline
      by_cases hs : forced = true ∨ stopsPlain (c :: s) = false
      · have hmore : forced = true ∨ stopsPlain (c :: (s ++ '\n' :: after)) = false := by
          rwa [← List.cons_append, stopsPlain_line]
        simp only [List.cons_append, readLiterals_literal hs hb, readLiterals_literal hmore hb,
          ih (.inr rfl) hline.2]
      · obtain ⟨hf, hstop⟩ := not_or.1 hs
        obtain rfl := Bool.eq_false_iff.2 hf
        rw [Bool.not_eq_false] at hstop
        rw [readLiterals_of_stop hstop, readLiterals_of_stop (by rwa [stopsPlain_line])]

theorem readPlain_leavesSuffix : readPlain.LeavesSuffix := by
  intro s content rest hs
  cases s with
  | nil => cases hs
  | cons c s =>
      have h := readLiterals_suffix true (c :: s)
      simp only [readPlain] at hs
      split at hs
      · cases hs
      · rwa [Option.some.inj hs] at h

theorem readPlain_staysOnLine : readPlain.StaysOnLine := by
  intro line after hline
  cases line with
  | nil => rfl
  | cons c line =>
      have hc : c ≠ '\n' := fun hc => hline (hc ▸ List.mem_cons_self)
      have h := @readLiterals_line true (c :: line) after (.inl (List.cons_ne_nil c line)) hline
      rw [List.cons_append] at h
      simp only [List.cons_append, readPlain, hc, if_false, h, Option.map_some]

/-! ## The alternatives -/

/-- The character that every text read by a rule opens with. -/
def LineRule.mark : LineRule → Char
  | .styled .strong => '*'
  | .styled .emphasis => '*'
  | .styled .spoiler => '~'
  | .styled .code => '\x60'
  | .reference => '>'
  | .link => 'h'

theorem LineRule.read_of_ne_mark {rule : LineRule} {c : Char} (h : c ≠ rule.mark)
    (s : List Char) : rule.read (c :: s) = none := by
  have hd := fun marker => dropMarker?_cons_of_ne (Ne.symm h) marker s
  cases rule with
  | styled style =>
      cases style <;>
        simp only [LineRule.read, readDelimited, Style.delimiter, LineRule.mark] at hd ⊢ <;>
        rw [hd] <;> rfl
  | reference =>
      simp only [LineRule.read, readReference, LineRule.mark] at hd ⊢
      rw [hd]
      rfl
  | link =>
      simp only [LineRule.mark] at hd
      have hh : dropMarker? "http://".toList (c :: s) = none := hd _
      have hs : dropMarker? "https://".toList (c :: s) = none := hd _
      simp only [LineRule.read, readLink, linkSchemes, List.findSome?_cons, List.findSome?_nil, hh,
        hs, Option.map_none]

theorem LineRule.read_nil (rule : LineRule) : rule.read [] = none := by
  cases h : rule.read [] with
  | none => rfl
  | some found => exact absurd (rule.read_progresses [] found.1 found.2 h) (Nat.not_lt_zero _)

theorem LineRule.read_leavesSuffix (rule : LineRule) : rule.read.LeavesSuffix := by
  cases rule with
  | styled style =>
      exact (readDelimited_leavesSuffix style.delimiter).map fun content =>
        Piece.item (.styled style content)
  | reference => exact readReference_leavesSuffix.map Piece.reference
  | link => exact readLink_leavesSuffix.map fun address => Piece.item (.link address)

theorem LineRule.read_staysOnLine (rule : LineRule) : rule.read.StaysOnLine := by
  cases rule with
  | styled style =>
      have hl : '\n' ∉ style.delimiter := by cases style <;> decide
      exact (readDelimited_staysOnLine style.delimiter_ne_nil hl).map fun content =>
        Piece.item (.styled style content)
  | reference => exact readReference_staysOnLine.map Piece.reference
  | link => exact readLink_staysOnLine.map fun address => Piece.item (.link address)

theorem readPiece_leavesSuffix (order : List LineRule) : (readPiece order).LeavesSuffix := by
  intro s piece rest hs
  simp only [readPiece] at hs
  split at hs
  · rename_i found h
    obtain ⟨rule, -, hr⟩ := List.exists_of_findSome?_eq_some h
    exact rule.read_leavesSuffix s piece rest (hr.trans hs)
  · exact readPlain_leavesSuffix.map (fun content => Piece.item (.plain content)) s piece rest hs

theorem readPiece_staysOnLine (order : List LineRule) : (readPiece order).StaysOnLine := by
  intro line after hline
  have hread : ∀ rule ∈ order, rule.read.StaysOnLine := fun rule _ => rule.read_staysOnLine
  have hrules := Reader.StaysOnLine.findSome? hread line after hline
  have hplain := readPlain_staysOnLine.map (fun content => Piece.item (.plain content)) line after
    hline
  simp only [readPiece, hrules]
  cases order.findSome? fun rule => rule.read line with
  | none => exact hplain
  | some found => rfl

/-- A piece is found wherever the line goes on. -/
theorem readPiece_eq_none_iff (order : List LineRule) (s : List Char) :
    readPiece order s = none ↔ s = [] ∨ ∃ after, s = '\n' :: after := by
  constructor
  · intro h
    cases s with
    | nil => exact .inl rfl
    | cons c s =>
        by_cases hc : c = '\n'
        · exact .inr ⟨s, by rw [hc]⟩
        · simp only [readPiece, readPlain, hc, if_false, Option.map_some] at h
          split at h <;> cases h
  · intro h
    have hnone : order.findSome? (fun rule => rule.read s) = none := by
      refine List.findSome?_eq_none_iff.2 fun rule _ => ?_
      rcases h with rfl | ⟨after, rfl⟩
      · exact rule.read_nil
      · refine LineRule.read_of_ne_mark ?_ after
        cases rule with
        | styled style => cases style <;> decide
        | reference => decide
        | link => decide
    simp only [readPiece, hnone]
    rcases h with rfl | ⟨after, rfl⟩ <;> rfl

/-! ## What a piece is read from -/

/-- How a piece is read off the front of a text: by one of the alternatives, or as plain text. -/
inductive Piece.ReadOff (s rest : List Char) : Piece → Prop
  | styled {style : Style} {content : List Char}
      (h : readDelimited style.delimiter s = some (content, rest)) :
      ReadOff s rest (.item (.styled style content))
  | reference {digits : List Char} (h : readReference s = some (digits, rest)) :
      ReadOff s rest (.reference digits)
  | link {address : List Char} (h : readLink s = some (address, rest)) :
      ReadOff s rest (.item (.link address))
  | plain {content : List Char} (h : readPlain s = some (content, rest)) :
      ReadOff s rest (.item (.plain content))

theorem readOff_of_readPiece {order : List LineRule} {s rest : List Char} {piece : Piece}
    (h : readPiece order s = some (piece, rest)) : piece.ReadOff s rest := by
  simp only [readPiece] at h
  split at h
  · rename_i found hf
    obtain ⟨rule, -, hr⟩ := List.exists_of_findSome?_eq_some hf
    have hr := hr.trans h
    cases rule with
    | styled style =>
        obtain ⟨content, hc, rfl⟩ :=
          exists_of_map_value (f := fun content => Piece.item (.styled style content)) hr
        exact .styled hc
    | reference =>
        obtain ⟨digits, hd, rfl⟩ := exists_of_map_value (f := Piece.reference) hr
        exact .reference hd
    | link =>
        obtain ⟨address, ha, rfl⟩ :=
          exists_of_map_value (f := fun address => Piece.item (.link address)) hr
        exact .link ha
  · obtain ⟨content, hc, rfl⟩ :=
      exists_of_map_value (f := fun content => Piece.item (.plain content)) h
    exact .plain hc

/-- A piece is a reference that has been read, or an item that is none. -/
theorem readPiece_cases {order : List LineRule} {s rest : List Char} {piece : Piece}
    (h : readPiece order s = some (piece, rest)) :
    (∃ digits, piece = .reference digits ∧ readReference s = some (digits, rest)) ∨
      ∃ found, piece = .item found ∧ ∀ id address, found ≠ .reference id address := by
  cases readOff_of_readPiece h with
  | styled => exact .inr ⟨_, rfl, fun _ _ heq => by cases heq⟩
  | reference hd => exact .inl ⟨_, rfl, hd⟩
  | link => exact .inr ⟨_, rfl, fun _ _ heq => by cases heq⟩
  | plain => exact .inr ⟨_, rfl, fun _ _ heq => by cases heq⟩

theorem exists_opened_of_readDelimited {delimiter s content rest : List Char}
    (h : readDelimited delimiter s = some (content, rest)) : ∃ opened, s = delimiter ++ opened ∧
      readToDelimiter delimiter opened = some (content, rest) ∧ content ≠ [] := by
  obtain ⟨opened, ho, h⟩ := Option.bind_eq_some_iff.1 h
  obtain ⟨⟨found, after⟩, hf, h⟩ := Option.bind_eq_some_iff.1 h
  by_cases hne : found = []
  · simp [hne] at h
  · simp only [hne, if_false] at h
    obtain ⟨rfl, rfl⟩ := Prod.mk.inj (Option.some.inj h)
    exact ⟨opened, (dropMarker?_eq_some_iff _ _ _).1 ho, hf, hne⟩

theorem exists_scheme_of_readLink {s address rest : List Char}
    (h : readLink s = some (address, rest)) : ∃ scheme ∈ linkSchemes, ∃ opened,
      s = scheme ++ opened ∧ address = scheme ++ (readAddress opened).1 ∧
        rest = (readAddress opened).2 := by
  obtain ⟨scheme, hscheme, h⟩ := List.exists_of_findSome?_eq_some h
  obtain ⟨opened, ho, he⟩ := Option.map_eq_some_iff.1 h
  obtain ⟨rfl, rfl⟩ := Prod.mk.inj he
  exact ⟨scheme, hscheme, opened, (dropMarker?_eq_some_iff _ _ _).1 ho, rfl, rfl⟩

theorem exists_cons_of_readPlain {s content rest : List Char}
    (h : readPlain s = some (content, rest)) : ∃ c t, s = c :: t ∧ c ≠ '\n' ∧
      readLiterals true (c :: t) = (content, rest) := by
  cases s with
  | nil => cases h
  | cons c t =>
      rw [readPlain] at h
      split at h
      · cases h
      · rename_i hc
        exact ⟨c, t, rfl, hc, Option.some.inj h⟩

/-! ## All pieces of a line -/

theorem readPieces_of_none {order : List LineRule} {s : List Char} (h : readPiece order s = none) :
    readPieces order s = ([], s) := by
  rw [readPieces]
  split
  · rfl
  · rename_i hs; rw [h] at hs; cases hs

theorem readPieces_of_some {order : List LineRule} {s rest : List Char} {piece : Piece}
    (h : readPiece order s = some (piece, rest)) :
    readPieces order s = (piece :: (readPieces order rest).1, (readPieces order rest).2) := by
  rw [readPieces]
  split
  · rename_i hs; rw [h] at hs; cases hs
  · rename_i hs
    rw [h] at hs
    obtain ⟨rfl, rfl⟩ := Prod.mk.inj (Option.some.inj hs)
    rfl

/-- The pieces of a line that has no newline leave nothing. -/
theorem readPieces_rest {order : List LineRule} {line : List Char} (hline : '\n' ∉ line) :
    (readPieces order line).2 = [] := by
  induction line using readPieces.induct order with
  | case1 s h =>
      rw [readPieces_of_none h]
      rcases (readPiece_eq_none_iff order s).1 h with rfl | ⟨after, rfl⟩
      · rfl
      · exact absurd List.mem_cons_self hline
  | case2 s piece rest h _ _ _ _ ih =>
      rw [readPieces_of_some h]
      exact ih fun hn => hline ((readPiece_leavesSuffix order s piece rest h).subset hn)

/-- What follows a line has no part in its pieces. -/
theorem readPieces_line {order : List LineRule} {line : List Char} (hline : '\n' ∉ line)
    (after : List Char) :
    readPieces order (line ++ '\n' :: after) = ((readPieces order line).1, '\n' :: after) := by
  induction line using readPieces.induct order with
  | case1 s h =>
      have hmore := readPiece_staysOnLine order s after hline
      rw [h, Option.map_none] at hmore
      rw [readPieces_of_none h, readPieces_of_none hmore]
      rcases (readPiece_eq_none_iff order s).1 h with rfl | ⟨after, rfl⟩
      · rfl
      · exact absurd List.mem_cons_self hline
  | case2 s piece rest h _ _ _ _ ih =>
      have hmore := readPiece_staysOnLine order s after hline
      rw [h, Option.map_some] at hmore
      rw [readPieces_of_some h, readPieces_of_some hmore,
        ih fun hn => hline ((readPiece_leavesSuffix order s piece rest h).subset hn)]

theorem readPieces_eq_nil_iff {order : List LineRule} {line : List Char} (hline : '\n' ∉ line) :
    (readPieces order line).1 = [] ↔ line = [] := by
  constructor
  · intro h
    cases hp : readPiece order line with
    | none =>
        rcases (readPiece_eq_none_iff order line).1 hp with rfl | ⟨after, rfl⟩
        · rfl
        · exact absurd List.mem_cons_self hline
    | some found => rw [readPieces_of_some hp] at h; cases h
  · rintro rfl
    rw [readPieces_of_none ((readPiece_eq_none_iff order []).2 (.inl rfl))]

/-- What holds of a piece wherever one is read holds of all pieces. -/
theorem forall_mem_readPieces {P : Piece → Prop} {order : List LineRule} {s : List Char}
    (hP : ∀ t piece rest, t <:+ s → readPiece order t = some (piece, rest) → P piece) :
    ∀ piece ∈ (readPieces order s).1, P piece := by
  induction s using readPieces.induct order with
  | case1 s h =>
      rw [readPieces_of_none h]
      intro piece hpiece
      cases hpiece
  | case2 s piece rest h _ _ _ _ ih =>
      have hsuffix := readPiece_leavesSuffix order s piece rest h
      rw [readPieces_of_some h, List.forall_mem_cons]
      refine ⟨hP s piece rest List.suffix_rfl h, ?_⟩
      exact ih fun t found after ht hfound => hP t found after (ht.trans hsuffix) hfound

/-- What holds of all items, and of plain texts that are joined, holds after joining. -/
theorem forall_mem_mergePlain {P : LineItem → Prop}
    (hjoin : ∀ a b, P (.plain a) → P (.plain b) → P (.plain (a ++ b))) {items : List LineItem}
    (h : ∀ item ∈ items, P item) : ∀ item ∈ mergePlain items, P item := by
  induction items with
  | nil => exact h
  | cons item items ih =>
      rw [List.forall_mem_cons] at h
      have hmerged := ih h.2
      change ∀ joined ∈ joinPlain item (mergePlain items), P joined
      unfold joinPlain
      split
      · rename_i a b others heq
        rw [heq, List.forall_mem_cons] at hmerged
        rw [List.forall_mem_cons]
        exact ⟨hjoin a b h.1 hmerged.1, hmerged.2⟩
      · rw [List.forall_mem_cons]
        exact ⟨h.1, hmerged⟩

/-! ## A whole line -/

section
variable {m : Type → Type} [Monad m]

theorem readItems_eq (lookup : Lookup m) (s : List Char) : readItems lookup s =
    if (readPieces LineRule.inOrder s).1 = [] then none
    else some (settlePieces lookup (readPieces LineRule.inOrder s).1,
      (readPieces LineRule.inOrder s).2) := rfl

/-- A line is parsed by settling its pieces. -/
theorem parseLine_of_line [LawfulMonad m] (lookup : Lookup m) {line : List Char} (hne : line ≠ [])
    (hline : '\n' ∉ line) : parseLine lookup line =
      ExceptT.adapt Refusal.overlongReference
        (settlePieces lookup (readPieces LineRule.inOrder line).1) := by
  have hpieces : (readPieces LineRule.inOrder line).1 ≠ [] := by
    intro h
    exact hne ((readPieces_eq_nil_iff hline).1 h)
  have hread : readItems lookup line =
      some (settlePieces lookup (readPieces LineRule.inOrder line).1, []) := by
    rw [readItems_eq, if_neg hpieces, readPieces_rest hline]
  rw [parseLine, hread]
  simp

end

end Imageboard.Markup
