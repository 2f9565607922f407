import Imageboard.Proofs.Command.Trouble
import Imageboard.Proofs.Pattern.Rule

/-!
Bad rules. Whatever is wrong with a rule shows when rules are compiled or applied, and it is told
with the pattern of the rule, but for the few failures that are no faults. A command that meets a
bad rule reports it if it is a fault.
-/
namespace Imageboard
open Store (Tables ThreadRow)

namespace Rule

/-- Nothing that has been noted down changes what rules make of a text. -/
theorem run_applyAll (rules : List Rule) (text : List Char) (notes : List Record) :
    ((applyAll rules text : ExceptT RuleFailure Noted (List Char)).run.run notes).1 =
      outcomeOf (applyAll rules text) :=
  (Noted.steady.agrees_mk (compileAll rules)).bind (fun compiled =>
    Steady.Agrees.foldlM (Post.agrees_apply Noted.steady_note) text compiled) notes

end Rule

section
variable {rules : List Rule} {raw : List Char} {failure : RuleFailure}
  (hfails : outcomeOf (Rule.applyAll rules raw) = .error failure)
include hfails

theorem Post.plainParse_of_badRule (resolve : Int → Option (List Char)) :
    outcomeOf (Post.plainParse rules resolve raw) = .error (.rule failure) := by
  have hprepare : outcomeOf (ExceptT.adapt Post.Rejection.rule (Post.prepare rules raw)) =
      .error (.rule failure) := by
    change (outcomeOf (Post.prepare rules raw)).mapError Post.Rejection.rule = _
    rw [Post.prepare, outcomeOf_bind, hfails]
    rfl
  rw [Post.plainParse, outcomeOf_bind, hprepare]
  rfl

theorem Store.plainRender_of_badRule (tables : Option Tables) :
    outcomeOf (Store.plainRender tables rules raw) = .error (.rejected (.rule failure)) := by
  have hparse : outcomeOf (ExceptT.adapt Store.Failure.rejected
      (Post.plainParse rules (Store.answers tables) raw)) = .error (.rejected (.rule failure)) := by
    change (outcomeOf (Post.plainParse rules (Store.answers tables) raw)).mapError _ = _
    rw [Post.plainParse_of_badRule hfails]
    rfl
  rw [Store.plainRender, outcomeOf_bind, hparse]
  rfl

end

namespace Command

/-! ## Commands that filter a text -/

/-- A command that gets as far as filtering the text by the rules. -/
inductive Filters (s : Surroundings) (d : Databases) (rules : List Rule) (raw : List Char) :
    Command → Prop where
  | thread {board path : List Char} {settings : Settings} {location : Location} {tables : Tables}
      {d' : Databases} (loaded : (bareSettings s).run.run d = (.ok settings, d))
      (filtered : settings.filterRules = rules) (read : (bareBody s path).run.run d = (.ok raw, d))
      (opened : (bareTables s settings.databaseUrl).run.run d = (.ok (location, tables), d')) :
      Filters s d rules raw (.thread board path)
  | post {number : Int} {path : List Char} {settings : Settings} {location : Location}
      {tables : Tables} {d' : Databases} {row : Tables × ThreadRow}
      (loaded : (bareSettings s).run.run d = (.ok settings, d))
      (filtered : settings.filterRules = rules) (read : (bareBody s path).run.run d = (.ok raw, d))
      (opened : (bareTables s settings.databaseUrl).run.run d = (.ok (location, tables), d'))
      (found : Store.requireThread (some tables) number = .ok row) :
      Filters s d rules raw (.post number path)
  | resolving {path : List Char} {settings : Settings} {location : Location} {tables : Tables}
      {d' : Databases} (loaded : (bareSettings s).run.run d = (.ok settings, d))
      (filtered : settings.filterRules = rules) (read : (bareBody s path).run.run d = (.ok raw, d))
      (opened : (bareTables s settings.databaseUrl).run.run d = (.ok (location, tables), d')) :
      Filters s d rules raw (.render path true)
  | unresolved {path : List Char} {settings : Settings}
      (loaded : (bareSettings s).run.run d = (.ok settings, d))
      (filtered : settings.filterRules = rules)
      (read : (bareBody s path).run.run d = (.ok raw, d)) :
      Filters s d rules raw (.render path false)

theorem bareSubmitted_eq {α : Type} {run : ExceptT Store.Failure Noted α}
    {plain : ExceptT Store.Failure Id α} (h : Noted.steady.Agrees run plain) (d : Databases) :
    (bareSubmitted run).run.run d = ((outcomeOf plain).mapError Trouble.store, d) := by
  have hrun : (run.run.run []).1 = outcomeOf plain := h []
  unfold bareSubmitted
  rw [hrun]
  cases outcomeOf plain <;> rfl

section
variable {s : Surroundings} {d : Databases} {rules : List Rule} {raw : List Char}
  {command : Command} {failure : RuleFailure}

theorem steady_noLookup (id : Int) :
    Noted.steady.Gives (Post.noLookup id : Noted (Option (List Char))) none :=
  fun _ => rfl

theorem run_render_of_badRule (hfails : outcomeOf (Rule.applyAll rules raw) = .error failure)
    {lookup : Markup.Lookup Noted} {resolve : Int → Option (List Char)}
    (hlookup : ∀ id, Noted.steady.Gives (lookup id) (resolve id)) (d : Databases) :
    (bareSubmitted (ExceptT.adapt Store.Failure.rejected
      (Post.render rules lookup raw))).run.run d =
        (.error (.store (.rejected (.rule failure))), d) := by
  have hplain : outcomeOf (ExceptT.adapt Store.Failure.rejected
      (Post.plainParse rules resolve raw >>= fun body => pure body.html)) =
        .error (.rejected (.rule failure)) := by
    change (outcomeOf (Post.plainParse rules resolve raw >>= _)).mapError _ = _
    rw [outcomeOf_bind, Post.plainParse_of_badRule hfails]
    rfl
  have hagrees := (Post.agrees_parse Noted.steady_note hlookup rules raw).bind
    fun body => Noted.steady.agrees_pure body.html
  have hsubmitted := bareSubmitted_eq (hagrees.adapt Store.Failure.rejected) d
  rw [hplain] at hsubmitted
  exact hsubmitted

/-- The failure of a rule is the trouble of a command that gets as far as the rule. -/
theorem bareRun_of_badRule (hfilters : Filters s d rules raw command)
    (hfails : outcomeOf (Rule.applyAll rules raw) = .error failure) :
    (command.bareRun s d).1 = .error (.store (.rejected (.rule failure))) := by
  cases hfilters with
  | @thread board path settings location tables d' loaded filtered read opened =>
      have hplain : outcomeOf (Store.plainSubmitThread (some tables) board raw
          settings.filterRules) = .error (.rejected (.rule failure)) := by
        rw [Store.plainSubmitThread, outcomeOf_bind, filtered,
          Store.plainRender_of_badRule hfails]
        rfl
      have hsubmitted := bareSubmitted_eq
        (Store.submitThread_agrees (some tables) board raw settings.filterRules) d'
      rw [hplain] at hsubmitted
      rw [bareRun, body, bareThread, run_bind_ok loaded, run_bind_ok read, run_bind_ok opened]
      exact congrArg Prod.fst (run_bind_error hsubmitted)
  | @post number path settings location tables d' row loaded filtered read opened found =>
      have hplain : outcomeOf (Store.plainSubmitPost (some tables) number raw
          settings.filterRules) = .error (.rejected (.rule failure)) := by
        have hfound : outcomeOf (ExceptT.mk (pure (Store.requireThread (some tables) number))) =
            .ok row := found
        rw [Store.plainSubmitPost, outcomeOf_bind, hfound]
        change outcomeOf (Store.plainRender (some tables) settings.filterRules raw >>= _) = _
        rw [outcomeOf_bind, filtered, Store.plainRender_of_badRule hfails]
        rfl
      have hsubmitted := bareSubmitted_eq
        (Store.submitPost_agrees (some tables) number raw settings.filterRules) d'
      rw [hplain] at hsubmitted
      rw [bareRun, body, barePost, run_bind_ok loaded, run_bind_ok read, run_bind_ok opened]
      exact congrArg Prod.fst (run_bind_error hsubmitted)
  | @resolving path settings location tables d' loaded filtered read opened =>
      rw [bareRun, body, bareRender, run_bind_ok loaded, run_bind_ok read]
      dsimp only
      rw [if_pos rfl, run_bind_ok opened, filtered]
      have hrendered := run_render_of_badRule hfails (Store.lookup_gives (some tables)) d'
      exact congrArg Prod.fst (run_bind_error hrendered)
  | @unresolved path settings loaded filtered read =>
      rw [bareRun, body, bareRender, run_bind_ok loaded, run_bind_ok read]
      dsimp only
      rw [if_neg Bool.false_ne_true, filtered]
      have hrendered := run_render_of_badRule hfails steady_noLookup d
      exact congrArg Prod.fst (run_bind_error hrendered)

/-- The failure of a rule that is the trouble, when rules are compiled or applied. -/
def Trouble.ruleFailure? : Trouble → Option RuleFailure
  | .settings (.rule failure) => some failure
  | .store (.rejected (.rule failure)) => some failure
  | _ => none

theorem Trouble.reports_stop_of_ruleFailure? {trouble : Trouble} (message : String)
    (h : trouble.ruleFailure? = some failure) :
    Reports (.error (trouble.stop message)) ↔ failure.failure.isForeseen = true := by
  rw [reports_stop_iff]
  unfold ruleFailure? at h
  split at h
  · obtain rfl := Option.some.inj h
    simp [isForeseen, isUndecodable, isUnreadable, Settings.Failure.isForeseen]
  · obtain rfl := Option.some.inj h
    simp [isForeseen, isUndecodable, isUnreadable, Store.Failure.isForeseen,
      Post.Rejection.isForeseen]
  · cases h

end

/-- Rules make a text of every text or fail with the pattern of one of them. The failure is a fault
in the writing of this rule, or one of the few that are not. A call whose trouble it is reports it
exactly if it is foreseen, as every fault is; and the failure is the trouble of each call whose
command gets as far as the rules. -/
theorem badRule_reported (rules : List Rule) (text : List Char) (notes : List Record) (call : Call)
    (directory : Directory) (environment : List (String × List Char)) (databases : Databases) :
    (match ((Rule.applyAll rules text : ExceptT RuleFailure Noted (List Char)).run.run notes).1
      with
      | .ok _ => True
      | .error failure => Rule.IsOf failure rules) ∧
    (∀ trouble failure, call.trouble? directory environment databases = some trouble →
      trouble.ruleFailure? = some failure →
      ∃ outcome, (call.answer directory environment databases).1 = some outcome ∧
        exitStatus (some outcome) = 1 ∧
          (Reports outcome ↔ failure.failure.isForeseen = true) ∧
            (Rule.IsTold failure.failure → Reports outcome)) ∧
    ∀ command raw failure, read? call.arguments = some command →
      Filters ⟨databases.look directory, environment, call.input⟩ databases rules raw command →
      outcomeOf (Rule.applyAll rules raw) = .error failure →
      call.trouble? directory environment databases =
        some (.store (.rejected (.rule failure))) := by
  refine ⟨?_, ?_, ?_⟩
  · rw [Rule.run_applyAll]
    cases hfails : outcomeOf (Rule.applyAll rules text) with
    | ok _ => trivial
    | error failure => exact Rule.isOf_of_applyAll hfails
  · intro trouble failure htrouble hrule
    obtain ⟨message, hanswer⟩ :=
      call.answer_of_trouble?_eq_some directory environment databases htrouble
    have hreports := trouble.reports_stop_of_ruleFailure? message hrule
    refine ⟨_, hanswer, rfl, hreports, ?_⟩
    rintro ⟨found, hfound⟩
    rw [hreports, hfound]
    rfl
  · intro command raw failure hread hfilters hfails
    rw [Call.trouble?, hread]
    dsimp only
    rw [bareRun_of_badRule hfilters hfails]

/-- Where nothing else is said than one rule, which asks for a group that its pattern lacks. -/
def groupless (replacement : String) : List (String × List Char) :=
  [("BOARDPOST_FILTER_RULES",
    ("[\x7bpattern: a, replace_with: ".toList ++ replacement.toList ++ "\x7d]".toList))]

/-- A thread is asked for. -/
def threadCall : Call := ⟨["thread".toList, "g".toList, "-".toList], ['a']⟩

theorem filters_threadCall :
    Filters ⟨Databases.look [] [], groupless "\\1", ['a']⟩ [] [⟨['a'], "\\1".toList⟩] ['a']
      (.thread ['g'] ['-']) := by
  let settings : Settings := { Settings.standard with filterRules := [⟨['a'], "\\1".toList⟩] }
  let location : Location := .file "boardpost.db".toList
  refine @Filters.thread _ _ _ _ _ _ settings location .empty
    (Databases.keep [] .empty location) ?_ rfl ?_ ?_
  · exact Prod.ext (by decide +kernel) (by decide +kernel)
  · exact Prod.ext (by decide +kernel) (by decide +kernel)
  · exact Prod.ext (by decide +kernel) (by decide +kernel)

/-- A replacement that asks for a missing group by number is reported. -/
theorem badRule_reported_byNumber : ∃ outcome,
    (threadCall.answer [] (groupless "\\1") []).1 = some outcome ∧
      exitStatus (some outcome) = 1 ∧ Reports outcome := by
  obtain ⟨-, hreported, htrouble⟩ := badRule_reported [⟨['a'], "\\1".toList⟩] ['a'] [] threadCall []
    (groupless "\\1") []
  obtain ⟨outcome, hanswer, hexit, -, htold⟩ := hreported _
    ⟨['a'], .fault ⟨.invalidReference 1, some ("\\1".toList, 1)⟩⟩
    (htrouble (.thread ['g'] ['-']) ['a'] _ (by decide +kernel) filters_threadCall
      (by decide +kernel)) rfl
  exact ⟨outcome, hanswer, hexit, htold ⟨_, rfl⟩⟩

/-- A replacement that asks for a missing group by name fails, but not with a fault, and breaks a
command off. -/
theorem unknownGroupName_not_told :
    ((Rule.applyAll [⟨['a'], "\\g<nope>".toList⟩] ['a'] :
      ExceptT RuleFailure Noted (List Char)).run.run []).1 =
        .error ⟨['a'], .unknownGroupName "nope".toList⟩ ∧
    ¬ Rule.IsTold (.unknownGroupName "nope".toList) ∧
    ∃ outcome, (threadCall.answer [] (groupless "\\g<nope>") []).1 = some outcome ∧
      ¬ Reports outcome := by
  have hanswer : (threadCall.answer [] (groupless "\\g<nope>") []).1 = some (.error (.breakdown
      (.store (.rejected (.rule ⟨['a'], .unknownGroupName "nope".toList⟩))))) := by
    decide +kernel
  exact ⟨by decide +kernel, nofun, _, hanswer, not_reports_breakdown _⟩

end Command

end Imageboard
