import Imageboard.Rule
import Imageboard.Proofs.Outcome

/-!
Rules one after another. Rules are compiled before any of them is applied, so which of several bad
rules is reported depends on whether their patterns or their replacements are bad. Whatever compiles
and applies them, two lists of rules that compile are applied one after the other.
-/
namespace Imageboard

namespace Rule

/-! ## Any way to compile and apply rules -/

variable {m : Type → Type} [Monad m] {ε γ : Type}

/-- Rules that are all compiled, and then applied in order, each to what the one before it has left,
whatever compiles and applies them. -/
def applyAllBy (compile : Rule → Except ε γ) (apply : γ → List Char → ExceptT ε m (List Char))
    (rules : List Rule) (text : List Char) : ExceptT ε m (List Char) := do
  let compiled ← ExceptT.mk (pure (rules.mapM compile))
  compiled.foldlM (fun text rule => apply rule text) text

theorem applyAll_eq [Journal m] (rules : List Rule) (text : List Char) :
    (applyAll rules text : ExceptT RuleFailure m (List Char)) =
      applyAllBy compile Compiled.apply rules text :=
  rfl

section
variable [LawfulMonad m] {compile : Rule → Except ε γ}
  {apply : γ → List Char → ExceptT ε m (List Char)} {rules first later : List Rule}

theorem applyAllBy_of_ok {compiled : List γ} (h : rules.mapM compile = .ok compiled)
    (text : List Char) : applyAllBy compile apply rules text =
      compiled.foldlM (fun text rule => apply rule text) text := by
  have hcompiled : (ExceptT.mk (pure (rules.mapM compile)) : ExceptT ε m (List γ)) =
      pure compiled := by
    rw [h]
    rfl
  rw [applyAllBy, hcompiled, pure_bind]

theorem run_applyAllBy_of_error {failure : ε} (h : rules.mapM compile = .error failure)
    (text : List Char) : (applyAllBy compile apply rules text).run = pure (.error failure) := by
  rw [applyAllBy, h, ExceptT.run_bind]
  exact pure_bind (m := m) _ _

theorem applyAllBy_append (hfirst : ∀ rule ∈ first, ∃ compiled, compile rule = .ok compiled)
    (hlater : ∀ rule ∈ later, ∃ compiled, compile rule = .ok compiled) (text : List Char) :
    applyAllBy compile apply (first ++ later) text =
      applyAllBy compile apply first text >>= applyAllBy compile apply later := by
  obtain ⟨compiled, hcompiled⟩ := exists_mapM_ok hfirst
  obtain ⟨others, hothers⟩ := exists_mapM_ok hlater
  have hall : (first ++ later).mapM compile = .ok (compiled ++ others) := by
    rw [List.mapM_append, hcompiled, hothers]
    rfl
  rw [applyAllBy_of_ok hall, applyAllBy_of_ok hcompiled, List.foldlM_append]
  exact bind_congr fun text => (applyAllBy_of_ok hothers text).symm

end

/-- Rules are applied in two passes over their list, and this is all that the following rests on: it
holds whatever compiles a rule and whatever a compiled rule does to a text. If all rules of two lists
compile, the lists together come to what the second makes of the text that the first has left, and to
the failure of the first where it fails. If some rule does not compile, they come to the failure of
the first such rule, for every text, so before any rule is applied. -/
theorem applyAll_twoLists [LawfulMonad m] [Journal m] :
    (∀ rules text, (applyAll rules text : ExceptT RuleFailure m (List Char)) =
      applyAllBy Rule.compile Compiled.apply rules text) ∧
    ∀ {ε γ : Type} (compile : Rule → Except ε γ)
      (apply : γ → List Char → ExceptT ε m (List Char)) (first later : List Rule),
      ((∀ rule ∈ first ++ later, ∃ compiled, compile rule = .ok compiled) → ∀ text,
        (applyAllBy compile apply (first ++ later) text).run =
          (applyAllBy compile apply first text).run >>= fun outcome =>
            match outcome with
            | .ok between => (applyAllBy compile apply later between).run
            | .error failure => pure (.error failure)) ∧
      ((∃ rule ∈ first ++ later, ∀ compiled, compile rule ≠ .ok compiled) →
        ∃ before rule after failure, first ++ later = before ++ rule :: after ∧
          (∀ earlier ∈ before, ∃ compiled, compile earlier = .ok compiled) ∧
          compile rule = .error failure ∧
          ∀ text, (applyAllBy compile apply (first ++ later) text).run =
            pure (.error failure)) := by
  refine ⟨applyAll_eq, ?_⟩
  intro ε γ compile apply first later
  constructor
  · intro h text
    rw [List.forall_mem_append] at h
    rw [applyAllBy_append h.1 h.2, ExceptT.run_bind]
    refine bind_congr (m := m) fun outcome => ?_
    cases outcome with
    | ok between => rfl
    | error failure => rfl
  · intro h
    obtain ⟨before, rule, after, failure, hsplit, hbefore, hrule⟩ := exists_first_error h
    refine ⟨before, rule, after, failure, hsplit, hbefore, hrule, fun text => ?_⟩
    rw [hsplit]
    exact run_applyAllBy_of_error (mapM_error_of_first hbefore hrule) text

theorem compiles_of_isSome {rule : Rule} (h : rule.compile.toOption.isSome = true) :
    ∃ compiled, rule.compile = .ok compiled := by
  obtain ⟨compiled, hcompiled⟩ := Option.isSome_iff_exists.1 h
  exact ⟨compiled, ok_of_toOption hcompiled⟩

/-- A rule that writes what `barRule` replaces. -/
def fooRule : Rule := ⟨"foo".toList, "bar".toList⟩

def barRule : Rule := ⟨"bar".toList, "baz".toList⟩

/-- A rule that compiles, but asks for a group that its pattern does not have. -/
def secondGroupRule : Rule := ⟨"(a)".toList, "\\2".toList⟩

/-- A rule that does not compile. -/
def openRule : Rule := ⟨['('], []⟩

theorem compile_openRule_ne_ok (compiled : Compiled) : openRule.compile ≠ .ok compiled := by
  have hnone : openRule.compile.toOption.isSome = false := by decide +kernel
  intro hcompiled
  rw [hcompiled] at hnone
  cases hnone

/-- A rule works on what another one in front of it has written; and a bracket that is not closed is
reported although the replacement in front of it asks for a group that there is not. -/
theorem applyAll_twoLists_of_fedRule :
    (∀ rule ∈ [fooRule] ++ [barRule], ∃ compiled, Rule.compile rule = .ok compiled) ∧
    ((applyAll ([fooRule] ++ [barRule]) "foo".toList :
      ExceptT RuleFailure Noted (List Char)).run.run []).1 = .ok "baz".toList ∧
    (∃ rule ∈ [secondGroupRule] ++ [openRule], ∀ compiled, Rule.compile rule ≠ .ok compiled) ∧
    ∃ failure, openRule.compile = .error failure ∧ ∀ text,
      (applyAll ([secondGroupRule] ++ [openRule]) text :
        ExceptT RuleFailure Noted (List Char)).run = pure (.error failure) := by
  obtain ⟨happlied, hany⟩ := applyAll_twoLists (m := Noted)
  have hgood : ∀ rule ∈ [fooRule] ++ [barRule], ∃ compiled, Rule.compile rule = .ok compiled := by
    rw [List.singleton_append, List.forall_mem_cons, List.forall_mem_singleton]
    exact ⟨compiles_of_isSome (by decide +kernel), compiles_of_isSome (by decide +kernel)⟩
  have hbad : ∃ rule ∈ [secondGroupRule] ++ [openRule],
      ∀ compiled, Rule.compile rule ≠ .ok compiled :=
    ⟨openRule, List.mem_append_right _ List.mem_cons_self, compile_openRule_ne_ok⟩
  obtain ⟨htogether, -⟩ := hany Rule.compile Compiled.apply [fooRule] [barRule]
  obtain ⟨before, rule, after, failure, hsplit, -, hrule, hfailed⟩ :=
    (hany Rule.compile Compiled.apply [secondGroupRule] [openRule]).2 hbad
  refine ⟨hgood, ?_, hbad, failure, ?_, hfailed⟩
  · rw [happlied, htogether hgood]
    decide +kernel
  · have hmem : rule ∈ [secondGroupRule] ++ [openRule] := by
      rw [hsplit]
      exact List.mem_append_right _ List.mem_cons_self
    rcases List.mem_cons.1 hmem with rfl | hmem
    · obtain ⟨compiled, hcompiled⟩ : ∃ compiled, secondGroupRule.compile = .ok compiled :=
        compiles_of_isSome (by decide +kernel)
      rw [hcompiled] at hrule
      cases hrule
    · rw [← List.mem_singleton.1 hmem]
      exact hrule

end Rule

end Imageboard
