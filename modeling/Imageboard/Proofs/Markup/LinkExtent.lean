import Imageboard.Markup.Cursor
import Imageboard.Proofs.Markup.Source

/-!
How far links go. A link is read wherever a scheme stands, and of the run of address characters
behind the scheme at most the last one is left out. So a link ends in a character that may end one,
or is its scheme alone, unless two characters that may not end a link stand at the end of the run.
-/
namespace Imageboard.Markup

/-! ## Trimmed runs -/

/-- A link that is no more than its scheme, or whose last character may end a link. -/
def EndsWell (scheme address : List Char) : Prop :=
  address = scheme ∨ ∃ c ∈ address.getLast?, isLinkFinalChar c = true

/-- A run whose last character may not end a link, nor the one before. -/
def DanglesTwice (run : List Char) : Prop :=
  (∃ c ∈ run.getLast?, isLinkFinalChar c = false) ∧
    ∃ c ∈ run.dropLast.getLast?, isLinkFinalChar c = false

/-- All address characters that follow a scheme. -/
def runAfter (scheme s : List Char) : List Char := (s.drop scheme.length).takeWhile isLinkChar

/-- A link ends well if nothing follows its scheme, or if what follows ends in a character that may
end a link. -/
theorem endsWell_append_iff (scheme address : List Char) :
    EndsWell scheme (scheme ++ address) ↔ ∀ c ∈ address.getLast?, isLinkFinalChar c = true := by
  cases hlast : address.getLast? with
  | none =>
      obtain rfl := List.getLast?_eq_none_iff.1 hlast
      simp [EndsWell]
  | some last =>
      have hne : address ≠ [] := by
        rintro rfl
        cases hlast
      simp [EndsWell, hne, List.getLast?_append, hlast]

/-- A trimmed run ends well unless more than its last character would have had to go. -/
theorem endsWell_trimmedRun_iff (scheme run : List Char) :
    EndsWell scheme (scheme ++ trimmedRun run) ↔ ¬ DanglesTwice run := by
  rw [endsWell_append_iff, trimmedRun]
  cases hlast : run.getLast? with
  | none =>
      obtain rfl := List.getLast?_eq_none_iff.1 hlast
      simp [DanglesTwice]
  | some last =>
      cases hfinal : isLinkFinalChar last with
      | true => simp [DanglesTwice, hlast, hfinal]
      | false => simp [DanglesTwice, hlast, hfinal]

/-! ## Links at a cursor -/

/-- Wherever a scheme stands a link is read: the scheme and the trimmed run behind it. -/
theorem attempt_readLink {scheme : List Char} (hscheme : scheme ∈ linkSchemes) {c : Cursor}
    (h : scheme <+: c.rest) :
    c.attempt readLink = (some (scheme ++ trimmedRun (runAfter scheme c.rest)),
      ⟨c.text, c.position + (scheme ++ trimmedRun (runAfter scheme c.rest)).length⟩) := by
  obtain ⟨opened, hopened⟩ := h
  have haddress : scheme ++ trimmedRun (runAfter scheme c.rest) =
      scheme ++ (readAddress opened).1 := by
    rw [runAfter, ← hopened, List.drop_left, fst_readAddress]
  have hsplit : c.rest = (scheme ++ (readAddress opened).1) ++ (readAddress opened).2 := by
    rw [List.append_assoc, readAddress_append, hopened]
  have hafter : c.text.drop (c.position + (scheme ++ (readAddress opened).1).length) =
      (readAddress opened).2 := by
    rw [← List.drop_drop, ← Cursor.rest, hsplit, List.drop_left]
  have hle : c.position + (scheme ++ (readAddress opened).1).length ≤ c.text.length := by
    have hlength := congrArg List.length hsplit
    have hpositive : ∀ scheme ∈ linkSchemes, 0 < scheme.length := by decide
    have hpos := hpositive scheme hscheme
    rw [Cursor.rest, List.length_drop, List.length_append, List.length_append] at hlength
    rw [List.length_append]
    omega
  rw [haddress, Cursor.attempt_eq_some_iff]
  refine ⟨(readAddress opened).2, ?_, ?_⟩
  · rw [← hopened, readLink_append hscheme]
  · rw [← hafter, Cursor.leaving_drop hle]

/-- Wherever a scheme stands a link is read. It goes as far as address characters go, less the last
of them if that may not end a link. So it ends well, unless the one before may not end a link
either. -/
theorem exists_link_of_scheme {scheme : List Char} (hscheme : scheme ∈ linkSchemes) {c : Cursor}
    (h : scheme <+: c.rest) : ∃ address,
      c.attempt readLink = (some address, ⟨c.text, c.position + address.length⟩) ∧
      address = scheme ++ trimmedRun (runAfter scheme c.rest) ∧
      (EndsWell scheme address ↔ ¬ DanglesTwice (runAfter scheme c.rest)) :=
  ⟨_, attempt_readLink hscheme h, rfl, endsWell_trimmedRun_iff scheme _⟩

/-- An address with signs inside, between a bracket and a comma. -/
def bracketedLink : Cursor := ⟨"(http://a.b/c?d=e, ok".toList, 1⟩

theorem exists_link_of_scheme_in_brackets :
    "http://".toList ∈ linkSchemes ∧ "http://".toList <+: bracketedLink.rest ∧
      bracketedLink.attempt readLink =
        (some "http://a.b/c?d=e".toList, ⟨bracketedLink.text, 17⟩) ∧
      EndsWell "http://".toList "http://a.b/c?d=e".toList := by
  have hscheme : "http://".toList ∈ linkSchemes := by decide
  have hstands : "http://".toList <+: bracketedLink.rest := by decide
  obtain ⟨address, hread, haddress, hends⟩ := exists_link_of_scheme hscheme hstands
  have hrun : runAfter "http://".toList bracketedLink.rest = "a.b/c?d=e,".toList := by
    decide +kernel
  rw [hrun] at haddress hends
  obtain rfl : address = "http://a.b/c?d=e".toList := haddress.trans (by decide +kernel)
  refine ⟨hscheme, hstands, hread, hends.2 ?_⟩
  rintro ⟨-, c, hc, hfinal⟩
  obtain rfl : 'e' = c := Option.some.inj hc
  exact absurd hfinal (by decide +kernel)

/-- Of two dots behind a link only the second stays outside. -/
theorem link_before_dots_not_endsWell :
    "http://".toList <+: Cursor.rest ⟨"http://a..".toList, 0⟩ ∧
      Cursor.attempt readLink ⟨"http://a..".toList, 0⟩ =
        (some "http://a.".toList, ⟨"http://a..".toList, 9⟩) ∧
      ¬ EndsWell "http://".toList "http://a.".toList := by
  refine ⟨by decide, by decide +kernel, ?_⟩
  rintro (hbare | ⟨c, hc, hfinal⟩)
  · exact absurd hbare (by decide)
  · obtain rfl : '.' = c := Option.some.inj hc
    exact absurd hfinal (by decide +kernel)

end Imageboard.Markup
