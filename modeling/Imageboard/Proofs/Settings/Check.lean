import Mathlib.Data.List.Forall2
import Imageboard.Settings.Check

/-!
What values say as settings, and what is told of those that say nothing. A value is checked either
to what it says or to problems, of which there is then at least one; findings that are put together
tell the problems of both, in order.
-/
namespace Imageboard

theorem LogLevel.ofName?_eq_some_iff {name : List Char} {level : LogLevel} :
    LogLevel.ofName? name = some level ↔ name = level.name := by
  constructor
  · intro h
    exact (eq_of_beq (List.find?_some h :)).symm
  · rintro rfl
    cases level with
    | debug => rfl
    | info => rfl
    | warning => rfl
    | error => rfl
    | critical => rfl

namespace Settings
open Yaml (Scalar Value)

/-! ## Findings and problems -/

namespace Checked

variable {α β : Type}

/-- The problems of a finding. -/
def problems : Checked α → List Problem
  | .ok _ => []
  | .error problems => problems

/-- There is a problem wherever nothing is found. -/
def Told (checked : Checked α) : Prop := checked ≠ .error []

theorem told_ok (a : α) : Told (.ok a : Checked α) := nofun

theorem told_fault (found : Fault) : Told (fault found : Checked α) := nofun

theorem Told.problems_eq_nil_iff {checked : Checked α} (h : checked.Told) :
    checked.problems = [] ↔ ∃ a, checked = .ok a := by
  cases checked with
  | ok a => exact iff_of_true rfl ⟨a, rfl⟩
  | error problems =>
      refine iff_of_false (fun hnil => ?_) nofun
      obtain rfl : problems = [] := hnil
      exact h rfl

theorem map_eq_ok_iff {f : α → β} {checked : Checked α} {b : β} :
    checked.map f = .ok b ↔ ∃ a, checked = .ok a ∧ f a = b := by
  cases checked with
  | ok a =>
      constructor
      · exact fun h => ⟨a, rfl, Except.ok.inj h⟩
      · rintro ⟨a', ha, rfl⟩
        rw [Except.ok.inj ha]
        rfl
  | error problems => exact iff_of_false nofun nofun

theorem problems_map (f : α → β) (checked : Checked α) :
    problems (checked.map f) = checked.problems := by
  cases checked with
  | ok a => rfl
  | error problems => rfl

theorem Told.map {checked : Checked α} (h : checked.Told) (f : α → β) :
    Told (checked.map f : Checked β) := by
  cases checked with
  | ok a => exact told_ok _
  | error problems => exact fun hnil => h (congrArg Except.error (Except.error.inj hnil))

theorem inside_eq_ok_iff {step : Step} {checked : Checked α} {a : α} :
    inside step checked = .ok a ↔ checked = .ok a := by
  cases checked with
  | ok b => exact Iff.rfl
  | error problems => exact iff_of_false nofun nofun

theorem Told.inside {checked : Checked α} (h : checked.Told) (step : Step) :
    (inside step checked).Told := by
  cases checked with
  | ok a => exact told_ok a
  | error problems =>
      exact fun hnil => h (congrArg Except.error (List.map_eq_nil_iff.1 (Except.error.inj hnil)))

/-- Problems that are found one step deeper name this step first. -/
theorem path_of_mem_inside {step : Step} {checked : Checked α} {problem : Problem}
    (h : problem ∈ (inside step checked).problems) : ∃ way, problem.path = step :: way := by
  cases checked with
  | ok a => exact absurd h List.not_mem_nil
  | error problems =>
      obtain ⟨deeper, -, rfl⟩ := List.mem_map.1 h
      exact ⟨deeper.path, rfl⟩

theorem both_eq_ok_iff {first : Checked α} {later : Checked β} {a : α} {b : β} :
    both first later = .ok (a, b) ↔ first = .ok a ∧ later = .ok b := by
  cases first with
  | ok a' =>
      cases later with
      | ok b' =>
          refine ⟨fun h => ?_, fun h => ?_⟩
          · obtain ⟨rfl, rfl⟩ := Prod.mk.inj (Except.ok.inj h)
            exact ⟨rfl, rfl⟩
          · rw [Except.ok.inj h.1, Except.ok.inj h.2]
            rfl
      | error problems => exact iff_of_false nofun nofun
  | error problems =>
      cases later with
      | ok b' => exact iff_of_false nofun nofun
      | error others => exact iff_of_false nofun nofun

theorem problems_both (first : Checked α) (later : Checked β) :
    (both first later).problems = first.problems ++ later.problems := by
  cases first with
  | ok a =>
      cases later with
      | ok b => rfl
      | error problems => rfl
  | error problems =>
      cases later with
      | ok b => exact (List.append_nil problems).symm
      | error others => rfl

theorem Told.both {first : Checked α} {later : Checked β} (hfirst : first.Told)
    (hlater : later.Told) : (both first later).Told := by
  intro hnil
  have hproblems := problems_both first later
  rw [hnil] at hproblems
  obtain ⟨hf, hl⟩ := List.append_eq_nil_iff.1 hproblems.symm
  obtain ⟨a, rfl⟩ := hfirst.problems_eq_nil_iff.1 hf
  obtain ⟨b, rfl⟩ := hlater.problems_eq_nil_iff.1 hl
  cases hnil

theorem all_eq_ok_iff {findings : List (Checked α)} {results : List α} :
    all findings = .ok results ↔ List.Forall₂ (fun checked a => checked = .ok a) findings results := by
  induction findings generalizing results with
  | nil =>
      rw [List.forall₂_nil_left_iff]
      exact ⟨fun h => (Except.ok.inj h).symm, fun h => h ▸ rfl⟩
  | cons checked others ih =>
      rw [all, map_eq_ok_iff, List.forall₂_cons_left_iff]
      constructor
      · rintro ⟨⟨a, rest⟩, hboth, rfl⟩
        obtain ⟨ha, hrest⟩ := both_eq_ok_iff.1 hboth
        exact ⟨a, rest, ha, ih.1 hrest, rfl⟩
      · rintro ⟨a, rest, ha, hrest, rfl⟩
        exact ⟨(a, rest), both_eq_ok_iff.2 ⟨ha, ih.2 hrest⟩, rfl⟩

theorem told_all {findings : List (Checked α)} (h : ∀ checked ∈ findings, checked.Told) :
    (all findings).Told := by
  induction findings with
  | nil => exact told_ok []
  | cons checked others ih =>
      rw [List.forall_mem_cons] at h
      exact (h.1.both (ih h.2)).map _

end Checked

open Checked (both_eq_ok_iff map_eq_ok_iff inside_eq_ok_iff)

/-! ## Values that say something -/

/-- A text, or bytes that can be read as one. -/
inductive IsText : Value → List Char → Prop where
  | text (s : List Char) : IsText (.scalar (.text s)) s
  | bytes {bytes : List UInt8} {s : List Char} (decoded : Text.decodeUtf8 bytes = .ok s) :
      IsText (.scalar (.bytes bytes)) s

/-- Entries with the pattern of a rule, and with its replacement unless that is empty. -/
inductive IsRule : Value → Rule → Prop where
  | entries {entries : List (Scalar × Value)} {pattern : Value} {rule : Rule}
      (found : findEntry entries "pattern" = some pattern) (written : IsText pattern rule.pattern)
      (replacement : match findEntry entries "replace_with" with
        | some value => IsText value rule.replacement
        | none => rule.replacement = []) :
      IsRule (.mapping entries) rule

/-- A collection of rules, in their order. -/
inductive IsRules : Value → List Rule → Prop where
  | list {items : List Value} {rules : List Rule} (each : List.Forall₂ IsRule items rules) :
      IsRules (.list items) rules
  | set {members : List Scalar} {rules : List Rule}
      (each : List.Forall₂ IsRule (members.map .scalar) rules) : IsRules (.set members) rules

/-- A setting is what a value says. -/
def Says (settings : Settings) : Field → Value → Prop
  | .appName, value => IsText value settings.appName
  | .databaseUrl, value => IsText value settings.databaseUrl
  | .logLevel, value => IsText value settings.logLevel.name
  | .filterRules, value => IsRules value settings.filterRules

theorem checkText_eq_ok_iff {value : Value} {s : List Char} :
    checkText value = .ok s ↔ IsText value s := by
  constructor
  · intro h
    unfold checkText at h
    split at h
    · rw [Except.ok.inj h]
      exact .text s
    · cases h
    · split at h
      · rename_i decoded
        rw [Except.ok.inj h] at decoded
        exact .bytes decoded
      · cases h
    · cases h
  · intro h
    cases h with
    | text s => rfl
    | bytes decoded => rw [checkText, decoded]

theorem checkLevel_of_text {value : Value} {name : List Char} (h : checkText value = .ok name) :
    checkLevel value = (LogLevel.ofName? name).elim (Checked.fault .noLevel) Except.ok := by
  rw [checkLevel, h]
  dsimp only [bind, Except.bind]
  cases LogLevel.ofName? name with
  | some level => rfl
  | none => rfl

theorem checkLevel_of_error {value : Value} {problems : List Problem}
    (h : checkText value = .error problems) : checkLevel value = .error problems := by
  rw [checkLevel, h]
  rfl

theorem checkLevel_eq_ok_iff {value : Value} {level : LogLevel} :
    checkLevel value = .ok level ↔ IsText value level.name := by
  rw [← checkText_eq_ok_iff]
  cases htext : checkText value with
  | error problems =>
      rw [checkLevel_of_error htext]
      exact iff_of_false nofun nofun
  | ok name =>
      rw [checkLevel_of_text htext, Except.ok.injEq, ← LogLevel.ofName?_eq_some_iff]
      cases LogLevel.ofName? name with
      | some found => simp
      | none => exact iff_of_false nofun nofun

theorem checkEntry_eq_ok_iff {entries : List (Scalar × Value)} {name : String}
    {otherwise : Checked (List Char)} {s : List Char} :
    checkEntry entries name otherwise = .ok s ↔ match findEntry entries name with
      | some value => IsText value s
      | none => otherwise = .ok s := by
  rw [checkEntry, inside_eq_ok_iff]
  cases findEntry entries name with
  | some value => exact checkText_eq_ok_iff
  | none => exact Iff.rfl

theorem checkRule_eq_ok_iff {value : Value} {rule : Rule} :
    checkRule value = .ok rule ↔ IsRule value rule := by
  constructor
  · intro h
    unfold checkRule at h
    split at h
    · rename_i entries
      obtain ⟨⟨pattern, replacement⟩, hboth, rfl⟩ := map_eq_ok_iff.1 h
      obtain ⟨hpattern, hreplacement⟩ := both_eq_ok_iff.1 hboth
      rw [checkEntry_eq_ok_iff] at hpattern hreplacement
      split at hpattern
      · rename_i found hfound
        refine .entries hfound hpattern ?_
        split at hreplacement
        · exact hreplacement
        · exact (Except.ok.inj hreplacement).symm
      · cases hpattern
    · cases h
  · rintro ⟨hfound, hpattern, hreplacement⟩
    refine map_eq_ok_iff.2 ⟨(rule.pattern, rule.replacement), both_eq_ok_iff.2 ⟨?_, ?_⟩, rfl⟩
    · rw [checkEntry_eq_ok_iff, hfound]
      exact hpattern
    · rw [checkEntry_eq_ok_iff]
      split at hreplacement
      · exact hreplacement
      · rw [hreplacement]

theorem checkItems_eq_ok_iff {items : List Value} {rules : List Rule} :
    checkItems items = .ok rules ↔ List.Forall₂ IsRule items rules := by
  rw [checkItems, Checked.all_eq_ok_iff, List.forall₂_map_left_iff]
  simp only [inside_eq_ok_iff, checkRule_eq_ok_iff]
  rw [← List.forall₂_map_left_iff (f := Prod.fst), List.zipIdx_map_fst]

theorem checkRules_eq_ok_iff {value : Value} {rules : List Rule} :
    checkRules value = .ok rules ↔ IsRules value rules := by
  constructor
  · intro h
    unfold checkRules at h
    split at h
    · exact .list (checkItems_eq_ok_iff.1 h)
    · exact .set (checkItems_eq_ok_iff.1 h)
    · cases h
  · intro h
    cases h with
    | list each => exact checkItems_eq_ok_iff.2 each
    | set each => exact checkItems_eq_ok_iff.2 each

/-! ## Problems are told -/

theorem told_checkText (value : Value) : (checkText value).Told := by
  unfold checkText
  split
  · exact Checked.told_ok _
  · exact Checked.told_fault _
  · split
    · exact Checked.told_ok _
    · exact Checked.told_fault _
  · exact Checked.told_fault _

theorem told_checkLevel (value : Value) : (checkLevel value).Told := by
  cases htext : checkText value with
  | error problems =>
      have htold := told_checkText value
      rw [htext] at htold
      rw [checkLevel_of_error htext]
      exact fun hnil => htold (congrArg Except.error (Except.error.inj hnil))
  | ok name =>
      rw [checkLevel_of_text htext]
      cases LogLevel.ofName? name with
      | some level => exact Checked.told_ok _
      | none => exact Checked.told_fault _

theorem told_checkEntry {entries : List (Scalar × Value)} {name : String}
    {otherwise : Checked (List Char)} (h : otherwise.Told) :
    (checkEntry entries name otherwise).Told := by
  refine Checked.Told.inside ?_ _
  cases findEntry entries name with
  | some value => exact told_checkText value
  | none => exact h

theorem told_checkRule (value : Value) : (checkRule value).Told := by
  unfold checkRule
  split
  · exact ((told_checkEntry (Checked.told_fault _)).both (told_checkEntry (Checked.told_ok _))).map _
  · exact Checked.told_fault _

theorem told_checkItems (items : List Value) : (checkItems items).Told := by
  apply Checked.told_all
  rw [List.forall_mem_map]
  exact fun pair _ => (told_checkRule pair.1).inside _

theorem told_checkRules (value : Value) : (checkRules value).Told := by
  unfold checkRules
  split
  · exact told_checkItems _
  · exact told_checkItems _
  · exact Checked.told_fault _

/-! ## One value for each setting -/

/-- The problems that are told of the value for a setting. -/
def Field.told (field : Field) (value : Value) : List Problem :=
  match field with
  | .appName => (Checked.inside (.name field.name) (checkText value)).problems
  | .databaseUrl => (Checked.inside (.name field.name) (checkText value)).problems
  | .logLevel => (Checked.inside (.name field.name) (checkLevel value)).problems
  | .filterRules => (Checked.inside (.name field.name) (checkRules value)).problems

theorem Field.path_of_mem_told {field : Field} {value : Value} {problem : Problem}
    (h : problem ∈ field.told value) : ∃ way, problem.path = .name field.name :: way := by
  cases field with
  | appName => exact Checked.path_of_mem_inside h
  | databaseUrl => exact Checked.path_of_mem_inside h
  | logLevel => exact Checked.path_of_mem_inside h
  | filterRules => exact Checked.path_of_mem_inside h

/-- Problems are told of a value exactly if it says nothing. -/
theorem Field.told_eq_nil_iff (field : Field) (value : Value) :
    field.told value = [] ↔ ∃ settings, Says settings field value := by
  cases field with
  | appName =>
      simp only [Field.told, ((told_checkText value).inside _).problems_eq_nil_iff,
        inside_eq_ok_iff, checkText_eq_ok_iff]
      exact ⟨fun ⟨s, h⟩ => ⟨{ standard with appName := s }, h⟩, fun ⟨settings, h⟩ => ⟨_, h⟩⟩
  | databaseUrl =>
      simp only [Field.told, ((told_checkText value).inside _).problems_eq_nil_iff,
        inside_eq_ok_iff, checkText_eq_ok_iff]
      exact ⟨fun ⟨s, h⟩ => ⟨{ standard with databaseUrl := s }, h⟩, fun ⟨settings, h⟩ => ⟨_, h⟩⟩
  | logLevel =>
      simp only [Field.told, ((told_checkLevel value).inside _).problems_eq_nil_iff,
        inside_eq_ok_iff, checkLevel_eq_ok_iff]
      exact ⟨fun ⟨level, h⟩ => ⟨{ standard with logLevel := level }, h⟩,
        fun ⟨settings, h⟩ => ⟨_, h⟩⟩
  | filterRules =>
      simp only [Field.told, ((told_checkRules value).inside _).problems_eq_nil_iff,
        inside_eq_ok_iff, checkRules_eq_ok_iff]
      exact ⟨fun ⟨rules, h⟩ => ⟨{ standard with filterRules := rules }, h⟩,
        fun ⟨settings, h⟩ => ⟨_, h⟩⟩

section
variable {values : Field → Value}

/-- A value for each setting makes settings if these are what the values say. -/
theorem ofValues_eq_ok_iff {settings : Settings} :
    (ofValues fun field => some (values field)) = .ok settings ↔
      ∀ field, Says settings field (values field) := by
  rw [ofValues, map_eq_ok_iff]
  simp only [checkField]
  constructor
  · rintro ⟨⟨appName, databaseUrl, logLevel, filterRules⟩, h, rfl⟩
    simp only [both_eq_ok_iff, inside_eq_ok_iff, checkText_eq_ok_iff, checkLevel_eq_ok_iff,
      checkRules_eq_ok_iff] at h
    intro field
    cases field with
    | appName => exact h.1
    | databaseUrl => exact h.2.1
    | logLevel => exact h.2.2.1
    | filterRules => exact h.2.2.2
  · intro h
    refine ⟨(settings.appName, settings.databaseUrl, settings.logLevel, settings.filterRules),
      ?_, rfl⟩
    simp only [both_eq_ok_iff, inside_eq_ok_iff, checkText_eq_ok_iff, checkLevel_eq_ok_iff,
      checkRules_eq_ok_iff]
    exact ⟨h .appName, h .databaseUrl, h .logLevel, h .filterRules⟩

theorem problems_ofValues : (ofValues fun field => some (values field)).problems =
    Field.all.flatMap fun field => field.told (values field) := by
  simp only [ofValues, checkField, Checked.problems_map, Checked.problems_both, Field.all,
    List.flatMap_cons, List.flatMap_nil, List.append_nil]
  rfl

theorem exists_says_all (h : ∀ field, ∃ settings, Says settings field (values field)) :
    ∃ settings, ∀ field, Says settings field (values field) := by
  obtain ⟨named, hname⟩ := h .appName
  obtain ⟨addressed, haddress⟩ := h .databaseUrl
  obtain ⟨levelled, hlevel⟩ := h .logLevel
  obtain ⟨ruled, hrules⟩ := h .filterRules
  refine ⟨⟨named.appName, addressed.databaseUrl, levelled.logLevel, ruled.filterRules⟩, ?_⟩
  intro field
  cases field with
  | appName => exact hname
  | databaseUrl => exact haddress
  | logLevel => exact hlevel
  | filterRules => exact hrules

/-- Where some value says nothing, the problems of all are told in the order of the settings. -/
theorem ofValues_of_not_said (h : ∃ field, ∀ settings, ¬ Says settings field (values field)) :
    (ofValues fun field => some (values field)) =
      .error (Field.all.flatMap fun field => field.told (values field)) := by
  rw [← problems_ofValues]
  cases hmade : ofValues fun field => some (values field) with
  | ok settings =>
      obtain ⟨field, hfield⟩ := h
      exact absurd (ofValues_eq_ok_iff.1 hmade field) (hfield settings)
  | error problems => rfl

end

end Settings

end Imageboard
