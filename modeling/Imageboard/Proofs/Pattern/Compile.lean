import Imageboard.Pattern.Template
import Imageboard.Proofs.Pattern.Reading

/-!
Failures to compile a pattern and to read a template. Each is found in the text that is refused, and
a template fails with nothing but faults unless it names a group that its pattern lacks.
-/
namespace Imageboard.Pattern

/-! ## Compiling -/

mutual

theorem fault_of_check {template : Bool} {e : Failure} (node : Node)
    (h : node.check template = .error e) : ∃ found, e = .fault found := by
  cases node with
  | group _ _ _ body => exact fault_of_checkSequence body h
  | atomic body => exact fault_of_checkSequence body h
  | loop greed _ _ body =>
      unfold Node.check at h
      split at h
      · exact ⟨_, (Except.error.inj h).symm⟩
      · exact fault_of_checkSequence body h
  | branch alternatives => exact fault_of_checkAlternatives alternatives h
  | lookaround behind _ body =>
      unfold Node.check at h
      split at h
      · exact fault_of_checkSequence body h
      · split at h
        · exact ⟨_, (Except.error.inj h).symm⟩
        split at h
        · exact ⟨_, (Except.error.inj h).symm⟩
        · exact fault_of_checkSequence body h
  | conditional _ yes no =>
      rcases error_of_bind h with h | ⟨-, -, h⟩
      · exact fault_of_checkSequence yes h
      · exact fault_of_checkSequence no h
  | _ => cases h

theorem fault_of_checkSequence {template : Bool} {e : Failure} (nodes : List Node)
    (h : checkSequence template nodes = .error e) : ∃ found, e = .fault found := by
  cases nodes with
  | nil => cases h
  | cons node rest =>
      rcases error_of_bind h with h | ⟨-, -, h⟩
      · exact fault_of_check node h
      · exact fault_of_checkSequence rest h

theorem fault_of_checkAlternatives {template : Bool} {e : Failure} (alternatives : List (List Node))
    (h : checkAlternatives template alternatives = .error e) : ∃ found, e = .fault found := by
  cases alternatives with
  | nil => cases h
  | cons alternative rest =>
      rcases error_of_bind h with h | ⟨-, -, h⟩
      · exact fault_of_checkSequence alternative h
      · exact fault_of_checkAlternatives rest h

end

theorem within_start (text : List Char) : Within text ⟨⟨text, 0, text⟩, [], [], [], none, []⟩ where
  suffix := List.suffix_refl text
  flags := List.forall_mem_nil _

/-- A pattern that does not compile is refused for a reason that is in its text. -/
theorem refuses_of_compile {text : List Char} {e : Failure} (h : compile text = .error e) :
    Refuses text e := by
  have hfault : (∃ found, e = .fault found) → Refuses text e := by
    rintro ⟨found, rfl⟩
    exact .fault found
  unfold compile at h
  rcases error_of_bind h with h | ⟨source, hsource, h⟩
  · exact hfault (Source.fault_of_checked h)
  obtain rfl := Source.eq_of_checked hsource
  rcases error_of_bind h with h | ⟨⟨nodes, reading⟩, hread, h⟩
  · exact (reads_readAlternatives _ _ _ _).of_run_error (within_start text) h
  have hwithin : Within text reading :=
    ((reads_readAlternatives _ _ _ _).of_run_ok (within_start text) hread).2
  dsimp only at h
  split at h
  · rename_i hflags
    rw [Bool.and_eq_true, List.contains_iff_mem, List.contains_iff_mem] at hflags
    obtain rfl := Except.error.inj h
    exact .asciiAndUnicode (hwithin.flags _ hflags.1) (hwithin.flags _ hflags.2)
  split at h
  · exact hfault ⟨_, (Except.error.inj h).symm⟩
  split at h
  · exact hfault ⟨_, (Except.error.inj h).symm⟩
  rcases error_of_bind h with h | ⟨-, -, h⟩
  · exact hfault (fault_of_checkSequence _ h)
  · cases h

/-! ## Templates -/

/-- Why a template cannot be read for a pattern: any fault, or a name that stands in it and is not
the name of a group. -/
inductive TemplateRefuses (pattern : Pattern) (template : List Char) : Failure → Prop where
  | fault (found : Fault) : TemplateRefuses pattern template (.fault found)
  | unknownGroupName {name : List Char} (identifier : Text.isIdentifier name = true)
      (unknown : pattern.names.lookup name = none)
      (asked : "\\g<".toList ++ name ++ ['>'] <:+: template) :
      TemplateRefuses pattern template (.unknownGroupName name)

section
variable {pattern : Pattern} {template : List Char}

/-- An end of the template is left. -/
def Left (template : List Char) (s : Source) : Prop := rest s <:+ template

theorem follows_left (template : List Char) : Follows template (Left template) where
  suffix _ hs := hs
  moved _ _ hs hmoved := hmoved.trans hs

/-- Readers of templates that fail only with failures that are allowed. -/
abbrev TemplateKeeps {α : Type} (template : List Char) (E : Failure → Prop)
    (x : TemplateReader α) : Prop :=
  Keeps (Left template) E x fun _ => True

section
variable {E : Failure → Prop} (hE : ∀ fault, E (.fault fault))
include hE

theorem keeps_groupPiece (number position : Nat) :
    TemplateKeeps template E (groupPiece pattern number position) := by
  unfold groupPiece
  split
  · exact keeps_failAt hE _ _
  · exact keeps_pure trivial

/-- All but names that are looked for in vain are faults. -/
theorem keeps_readGroupPiece (hunknown : ∀ name, E (.unknownGroupName name)) :
    TemplateKeeps template E (readGroupPiece pattern) := by
  refine (keeps_accept hE (follows_left template) _).bind fun opened _ => ?_
  split
  · refine (keeps_readName hE (follows_left template) _ _).bind fun name _ => ?_
    refine keeps_tell.bind fun position _ => ?_
    dsimp only
    split
    · split
      · exact keeps_groupPiece hE _ _
      · exact keeps_throw (hunknown name)
    split
    · exact keeps_failAt hE _ _
    split
    · exact keeps_failAt hE _ _
    split
    · exact keeps_failAt hE _ _
    · exact keeps_groupPiece hE _ _
  · exact keeps_failHere hE _

theorem keeps_readDigitPiece (c : Char) (start : Nat) :
    TemplateKeeps template E (readDigitPiece pattern c start) := by
  refine (keeps_takeUpTo hE (follows_left template) _ _).bind fun more _ => ?_
  dsimp only
  refine (keeps_takeUpTo hE (follows_left template) _ _).bind fun third _ => ?_
  split
  · exact keeps_groupPiece hE _ _
  split
  · exact keeps_failAt hE _ _
  · exact keeps_pure trivial

theorem keeps_readEscapePiece {c : Char}
    (hunknown : c = 'g' → ∀ name, E (.unknownGroupName name)) (start : Nat) :
    TemplateKeeps template E (readEscapePiece pattern c start) := by
  unfold readEscapePiece
  split
  · rename_i hc
    exact keeps_readGroupPiece hE (hunknown hc)
  split
  · exact (keeps_takeUpTo hE (follows_left template) _ _).bind fun _ _ => keeps_pure trivial
  split
  · exact keeps_readDigitPiece hE c start
  split
  · exact keeps_pure trivial
  split
  · exact keeps_failAt hE _ _
  · exact keeps_pure trivial

end

/-- A name that is looked for in vain stands behind the letter for groups. -/
theorem refuses_of_readGroupPiece {s : Source} {e : Failure}
    (hs : '\\' :: 'g' :: rest s <:+ template) (h : (readGroupPiece pattern).run s = .error e) :
    TemplateRefuses pattern template e := by
  have hleft : Left template s := ((List.suffix_cons _ _).trans (List.suffix_cons _ _)).trans hs
  have hfault : ∀ found, TemplateRefuses pattern template (.fault found) := .fault
  unfold readGroupPiece at h
  rcases error_of_run_bind h with h | ⟨opened, t, hopened, h⟩
  · exact (keeps_accept hfault (follows_left template) '<').of_run_error hleft h
  have hleft' := ((keeps_accept hfault (follows_left template) '<').of_run_ok hleft hopened).2
  cases opened with
  | false =>
      obtain rfl := Except.error.inj h
      exact .fault _
  | true =>
      rcases error_of_run_bind h with h | ⟨name, u, hname, h⟩
      · exact (keeps_readName hfault (follows_left template) '>' .group).of_run_error hleft' h
      have hleft'' :=
        ((keeps_readName hfault (follows_left template) '>' .group).of_run_ok hleft' hname).2
      obtain ⟨position, v, hposition, h⟩ := (error_of_run_bind h).resolve_left (by rintro ⟨⟩)
      obtain ⟨rfl, rfl⟩ := Prod.mk.inj (Except.ok.inj hposition)
      dsimp only at h
      split at h
      · rename_i hidentifier
        split at h
        · exact (keeps_groupPiece hfault _ _).of_run_error hleft'' h
        · rename_i hunknown
          obtain rfl := Except.error.inj h
          refine .unknownGroupName hidentifier hunknown ?_
          have hrest : '\\' :: 'g' :: rest s = "\\g<".toList ++ name ++ ['>'] ++ rest u := by
            rw [rest_of_run_accept hopened, rest_of_run_readName hname]
            simp
          rw [hrest] at hs
          exact (List.prefix_append _ _).isInfix.trans hs.isInfix
      split at h
      · obtain rfl := Except.error.inj h
        exact .fault _
      split at h
      · obtain rfl := Except.error.inj h
        exact .fault _
      split at h
      · obtain rfl := Except.error.inj h
        exact .fault _
      · exact (keeps_groupPiece hfault _ _).of_run_error hleft'' h

theorem refuses_of_readEscapePiece {c : Char} {start : Nat} {s : Source} {e : Failure}
    (hs : '\\' :: c :: rest s <:+ template)
    (h : (readEscapePiece pattern c start).run s = .error e) :
    TemplateRefuses pattern template e := by
  by_cases hc : c = 'g'
  · rw [readEscapePiece, if_pos hc] at h
    rw [hc] at hs
    exact refuses_of_readGroupPiece hs h
  · have hleft : Left template s := ((List.suffix_cons _ _).trans (List.suffix_cons _ _)).trans hs
    exact (keeps_readEscapePiece .fault (fun heq => absurd heq hc) start).of_run_error hleft h

theorem refuses_of_readPieces {fuel : Nat} {s : Source} {e : Failure} (hs : Left template s)
    (h : (readPieces pattern fuel).run s = .error e) : TemplateRefuses pattern template e := by
  have hfault : ∀ found, TemplateRefuses pattern template (.fault found) := .fault
  induction fuel generalizing s with
  | zero => cases h
  | succ fuel ih =>
      unfold readPieces at h
      obtain ⟨start, s', hstart, h⟩ := (error_of_run_bind h).resolve_left (by rintro ⟨⟩)
      obtain ⟨rfl, rfl⟩ := Prod.mk.inj (Except.ok.inj hstart)
      rcases error_of_run_bind h with h | ⟨token, t, htake, h⟩
      · exact (keeps_take hfault (follows_left template)).of_run_error hs h
      have ht := ((keeps_take hfault (follows_left template)).of_run_ok hs htake).2
      split at h
      · cases h
      · rcases error_of_run_bind h with h | ⟨others, v, -, h⟩
        · exact ih ht h
        · cases h
      · rename_i c
        have hrest : '\\' :: c :: rest t <:+ template := by
          rw [Left, rest_of_run_take htake] at hs
          exact hs
        rcases error_of_run_bind h with h | ⟨piece, u, hpiece, h⟩
        · exact refuses_of_readEscapePiece hrest h
        have hu := ((keeps_readEscapePiece (E := fun _ => True) (fun _ => trivial)
          (fun _ _ => trivial) _).of_run_ok ht hpiece).2
        rcases error_of_run_bind h with h | ⟨others, v, -, h⟩
        · exact ih hu h
        · cases h

/-- A template that cannot be read is refused for a reason that is in it. -/
theorem refuses_of_readTemplate {e : Failure} (h : readTemplate pattern template = .error e) :
    TemplateRefuses pattern template e := by
  unfold readTemplate at h
  rcases error_of_bind h with h | ⟨source, hsource, h⟩
  · obtain ⟨found, rfl⟩ := Source.fault_of_checked h
    exact .fault found
  obtain rfl := Source.eq_of_checked hsource
  rcases error_of_bind h with h | ⟨_, -, h⟩
  · have hstart : Left template ⟨template, 0, template⟩ := List.suffix_refl template
    exact refuses_of_readPieces hstart h
  · cases h

end

theorem source_of_compile {text : List Char} {pattern : Pattern} (h : compile text = .ok pattern) :
    pattern.source = text := by
  unfold compile at h
  obtain ⟨source, -, h⟩ := exists_ok_of_bind h
  obtain ⟨⟨nodes, reading⟩, -, h⟩ := exists_ok_of_bind h
  dsimp only at h
  split at h
  · cases h
  split at h
  · cases h
  split at h
  · cases h
  obtain ⟨-, -, h⟩ := exists_ok_of_bind h
  rw [← Except.ok.inj h]

end Imageboard.Pattern
