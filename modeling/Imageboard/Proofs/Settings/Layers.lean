import Imageboard.Proofs.RuleSequence
import Imageboard.Proofs.Settings.Check
import Imageboard.Proofs.Settings.Load

/-!
Settings from layers. Where the sources can be read, there is one value for each setting, that of the
topmost source that gives any, and loading depends on these values only.
-/
namespace Imageboard.Settings
open Yaml (Scalar Value)

/-! ## One value for each setting -/

/-- The entries of the file with the settings. There are none where there is no file, and where the
file says nothing. -/
inductive Writes : Option (List Char) → List (Scalar × Value) → Prop where
  | missing : Writes none []
  | empty {text : List Char} {value : Value}
      (read : Yaml.read depth (Text.universalNewlines text) = .ok value)
      (empty : value.isEmpty = true) : Writes (some text) []
  | mapping {text : List Char} {entries : List (Scalar × Value)}
      (read : Yaml.read depth (Text.universalNewlines text) = .ok (.mapping entries))
      (named : HasNames (.mapping entries)) : Writes (some text) entries

/-- Sources that can be put over one another: a file with entries that have names, a variable for rules
that can be read, and one override for a name. -/
structure Sources.Layered (sources : Sources) (written : List (Scalar × Value)) : Prop where
  file : Writes sources.file written
  rules : ∀ text, sources.environment.lookup Field.filterRules.variableName = some text →
    text ≠ [] → ∃ value, Yaml.read depth text = .ok value
  overrides : (sources.overrides.map Prod.fst).Nodup

/-- The value that an override gives. Null gives none. -/
def Sources.ofOverrides? (sources : Sources) (field : Field) : Option Value :=
  match sources.overrides.lookup field.name.toList with
  | none | some (.scalar .null) => none
  | some value => some value

/-- The value that the environment gives. An empty variable gives none. -/
def Sources.ofEnvironment? (sources : Sources) (field : Field) : Option Value :=
  match sources.environment.lookup field.variableName, field with
  | none, _ | some [], _ => none
  | some text, .filterRules => (Yaml.read depth text).toOption
  | some text, _ => some (.scalar (.text text))

/-- The value that says what a setting is where nothing is said. -/
def Field.standardValue : Field → Value
  | .appName => .scalar (.text standard.appName)
  | .databaseUrl => .scalar (.text standard.databaseUrl)
  | .logLevel => .scalar (.text standard.logLevel.name)
  | .filterRules => .list []

/-- The value for a setting: of the overrides, of the environment, of the file, or the standard. -/
def Sources.valueOf (sources : Sources) (written : List (Scalar × Value)) (field : Field) : Value :=
  (sources.ofOverrides? field <|> sources.ofEnvironment? field <|> findEntry written field.name).getD
    field.standardValue

theorem Field.name_toList_eq_iff {field other : Field} :
    field.name.toList = other.name.toList ↔ field = other := by
  constructor
  · intro h
    cases field <;> cases other <;> first | rfl | exact absurd h (by decide)
  · exact fun h => h ▸ rfl

/-! ## Entries that are put over others -/

theorem canonical_eq_text_iff {key : Scalar} {name : List Char} :
    key.canonical = .text name ↔ key = .text name := by
  cases key with
  | float value =>
      refine iff_of_false (fun h => ?_) nofun
      cases value with
      | finite value =>
          rw [Scalar.canonical] at h
          split at h <;> cases h
      | _ => cases h
  | truth value => exact iff_of_false nofun nofun
  | _ => exact Iff.rfl

theorem put_eq (entries : List (Scalar × Value)) (key : List Char) (value : Value) :
    put entries key value =
      if entries.any (·.1 == .text key) then
        entries.map fun old => if old.1 == .text key then (old.1, value) else old
      else entries ++ [(.text key, value)] := by
  have hcanonical : ∀ old : Scalar × Value,
      (old.1.canonical == Scalar.canonical (.text key)) = (old.1 == .text key) := by
    intro old
    rw [Bool.eq_iff_iff, beq_iff_eq, beq_iff_eq]
    exact canonical_eq_text_iff
  unfold put Yaml.Graph.putEntry
  simp only [hcanonical]

theorem isSome_findEntry (entries : List (Scalar × Value)) (name : String) :
    (findEntry entries name).isSome = entries.any (·.1 == .text name.toList) := by
  rw [findEntry, Option.isSome_map, List.isSome_find?]

theorem findEntry_concat (entries : List (Scalar × Value)) (key : List Char) (value : Value)
    (name : String) : findEntry (entries ++ [(.text key, value)]) name =
      (findEntry entries name).or (if name.toList = key then some value else none) := by
  have hkey : ((Scalar.text key, value).1 == .text name.toList) = decide (name.toList = key) := by
    rw [Bool.eq_iff_iff, beq_iff_eq, decide_eq_true_iff, Scalar.text.injEq, eq_comm]
  unfold findEntry
  rw [List.find?_append, List.find?_singleton, hkey, Option.map_or, apply_ite (Option.map _)]
  simp only [decide_eq_true_iff]
  rfl

/-- New values for one key change what is found under it only. -/
theorem findEntry_map (entries : List (Scalar × Value)) (key : List Char) (value : Value)
    (name : String) :
    findEntry (entries.map fun old => if old.1 == .text key then (old.1, value) else old) name =
      (findEntry entries name).map fun old => if name.toList = key then value else old := by
  have hkeys : ((fun entry : Scalar × Value => entry.1 == .text name.toList) ∘
      fun old => if old.1 == .text key then (old.1, value) else old) =
        fun entry => entry.1 == .text name.toList := by
    funext old
    rw [Function.comp_apply, apply_ite Prod.fst, ite_self]
  unfold findEntry
  rw [List.find?_map, hkeys]
  cases hfound : entries.find? fun entry => entry.1 == .text name.toList with
  | none => rfl
  | some old =>
      have hold : old.1 = .text name.toList := eq_of_beq (List.find?_some hfound :)
      simp only [Option.map_some, hold, beq_iff_eq, Scalar.text.injEq]
      split <;> rfl

/-- What is put under a name is found under it, and nothing else is changed. -/
theorem findEntry_put (entries : List (Scalar × Value)) (key : List Char) (value : Value)
    (name : String) : findEntry (put entries key value) name =
      if name.toList = key then some value else findEntry entries name := by
  rw [put_eq]
  by_cases hname : name.toList = key
  · subst hname
    rw [if_pos rfl, ← isSome_findEntry]
    cases hfound : findEntry entries name with
    | none =>
        rw [if_neg (by simp), findEntry_concat, hfound, if_pos rfl]
        rfl
    | some old =>
        rw [Option.isSome_some, if_pos rfl, findEntry_map, hfound, Option.map_some, if_pos rfl]
  · rw [if_neg hname]
    split
    · rw [findEntry_map]
      simp only [if_neg hname, Option.map_id']
    · rw [findEntry_concat, if_neg hname, Option.or_none]

theorem lookup_eq_none_of_not_mem {overrides : List (List Char × Value)} {name : List Char}
    (h : name ∉ overrides.map Prod.fst) : overrides.lookup name = none := by
  rw [List.lookup_eq_none_iff]
  rintro override hmem
  rw [bne_iff_ne]
  rintro rfl
  exact h (List.mem_map_of_mem hmem)

/-- Of overrides with different names, each is found under its own. -/
theorem findEntry_foldl_put {overrides : List (List Char × Value)}
    (h : (overrides.map Prod.fst).Nodup) (entries : List (Scalar × Value)) (name : String) :
    findEntry (overrides.foldl (fun entries (name, value) => put entries name value) entries) name =
      (overrides.lookup name.toList <|> findEntry entries name) := by
  induction overrides generalizing entries with
  | nil => rfl
  | cons override overrides ih =>
      obtain ⟨key, value⟩ := override
      rw [List.map_cons, List.nodup_cons] at h
      rw [List.foldl_cons, ih h.2, findEntry_put, List.lookup_cons]
      split
      · rename_i hname
        rw [hname, lookup_eq_none_of_not_mem h.1, beq_self_eq_true]
        rfl
      · rename_i hname
        rw [beq_false_of_ne hname]

theorem lookup_filter {overrides : List (List Char × Value)}
    (h : (overrides.map Prod.fst).Nodup) (given : List Char × Value → Bool) (name : List Char) :
    (overrides.filter given).lookup name =
      (overrides.lookup name).filter fun value => given (name, value) := by
  induction overrides with
  | nil => rfl
  | cons override overrides ih =>
      obtain ⟨key, value⟩ := override
      rw [List.map_cons, List.nodup_cons] at h
      by_cases hname : name = key
      · subst hname
        rw [List.lookup_cons_self, Option.filter_some, List.filter_cons]
        split
        · exact List.lookup_cons_self
        · rw [ih h.2, lookup_eq_none_of_not_mem h.1]
          rfl
      · have hlater := ih h.2
        rw [List.lookup_cons, beq_false_of_ne hname, List.filter_cons]
        split
        · rw [List.lookup_cons, beq_false_of_ne hname]
          exact hlater
        · exact hlater

theorem lookup_givenOverrides {sources : Sources} (h : (sources.overrides.map Prod.fst).Nodup)
    (field : Field) :
    (givenOverrides sources.overrides).lookup field.name.toList = sources.ofOverrides? field := by
  rw [givenOverrides, lookup_filter h, Sources.ofOverrides?]
  cases sources.overrides.lookup field.name.toList with
  | none => rfl
  | some value =>
      cases value with
      | scalar value => cases value <;> rfl
      | _ => rfl

/-! ## Layers over entries -/

section
variable {sources : Sources} {written : List (Scalar × Value)}

theorem fileValue_of_writes {file : Option (List Char)} (h : Writes file written) :
    fileValue file = .ok (.mapping written) ∧ HasNames (.mapping written) := by
  cases h with
  | missing => exact ⟨rfl, nofun⟩
  | empty read empty =>
      rw [fileValue, read]
      exact ⟨congrArg Except.ok (if_pos empty), nofun⟩
  | mapping read named =>
      rw [fileValue, read]
      refine ⟨?_, named⟩
      cases written with
      | nil => rfl
      | cons entry entries => rfl

/-- The entries with the value of the environment for a setting. -/
def Sources.withVariable (sources : Sources) (entries : List (Scalar × Value)) (field : Field) :
    List (Scalar × Value) :=
  match sources.ofEnvironment? field with
  | none => entries
  | some value => put entries field.name.toList value

theorem putVariable_mapping (h : sources.Layered written) (entries : List (Scalar × Value))
    (field : Field) : putVariable sources.environment (.mapping entries) field =
      .ok (.mapping (sources.withVariable entries field)) := by
  unfold putVariable Sources.withVariable Sources.ofEnvironment?
  cases hlookup : sources.environment.lookup field.variableName with
  | none => rfl
  | some text =>
      cases text with
      | nil => rfl
      | cons c text =>
          cases field with
          | filterRules =>
              obtain ⟨value, hread⟩ := h.rules _ hlookup (List.cons_ne_nil c text)
              dsimp only [variableValue]
              rw [hread]
              rfl
          | _ => rfl

theorem hasNames_withVariable (entries : List (Scalar × Value)) (field : Field) :
    HasNames (.mapping (sources.withVariable entries field)) ↔ HasNames (.mapping entries) := by
  unfold Sources.withVariable
  split
  · exact Iff.rfl
  · exact hasNames_put _ _ _

theorem findEntry_withVariable (entries : List (Scalar × Value)) (field other : Field) :
    findEntry (sources.withVariable entries field) other.name =
      if other = field then (sources.ofEnvironment? other <|> findEntry entries other.name)
      else findEntry entries other.name := by
  unfold Sources.withVariable
  split
  · rename_i hnone
    split
    · rename_i hfield
      rw [hfield, hnone]
      rfl
    · rfl
  · rename_i value hsome
    rw [findEntry_put]
    simp only [Field.name_toList_eq_iff]
    split
    · rename_i hfield
      rw [hfield, hsome]
      rfl
    · rfl

/-- Variables are put over entries one after the other, and each is still there after the others. -/
theorem foldlM_putVariable (h : sources.Layered written) (fields : List Field)
    (entries : List (Scalar × Value)) :
    ∃ merged, fields.foldlM (putVariable sources.environment) (.mapping entries) =
        .ok (.mapping merged) ∧
      (HasNames (.mapping merged) ↔ HasNames (.mapping entries)) ∧
      ∀ field, findEntry merged field.name =
        if field ∈ fields then (sources.ofEnvironment? field <|> findEntry entries field.name)
        else findEntry entries field.name := by
  induction fields generalizing entries with
  | nil => exact ⟨entries, rfl, Iff.rfl, fun _ => rfl⟩
  | cons first fields ih =>
      obtain ⟨merged, hmerged, hnames, hfound⟩ := ih (sources.withVariable entries first)
      refine ⟨merged, ?_, hnames.trans (hasNames_withVariable _ _), fun field => ?_⟩
      · rw [List.foldlM_cons, putVariable_mapping h]
        exact hmerged
      · -- What is put twice is as if it were put once, so the settings need not be different ones.
        have htwice : ∀ above below : Option Value,
            (above <|> (above <|> below)) = (above <|> below) := by
          intro above below
          cases above <;> rfl
        rw [hfound, findEntry_withVariable]
        simp only [List.mem_cons]
        by_cases hfirst : field = first
        · rw [if_pos hfirst, htwice, ite_self, if_pos (.inl hfirst)]
        · simp only [hfirst, if_false, false_or]

theorem Field.mem_all (field : Field) : field ∈ Field.all := by
  cases field <;> decide

theorem putOverrides_mapping (overrides : List (List Char × Value))
    (entries : List (Scalar × Value)) : putOverrides overrides (.mapping entries) =
      .ok (.mapping ((givenOverrides overrides).foldl (fun entries (name, value) =>
        put entries name value) entries)) := by
  cases overrides with
  | nil => rfl
  | cons override overrides => rfl

/-- All layers together make entries, in which each setting has the value of the topmost layer that
gives any. -/
theorem entries_of_layered (h : sources.Layered written) :
    ∃ merged, entries sources = .ok merged ∧ ∀ field, findEntry merged field.name =
      (sources.ofOverrides? field <|> sources.ofEnvironment? field <|> findEntry written field.name) := by
  obtain ⟨hfile, hwritten⟩ := fileValue_of_writes h.file
  obtain ⟨merged, hmerged, hnames, hfound⟩ := foldlM_putVariable h Field.all written
  refine ⟨(givenOverrides sources.overrides).foldl (fun entries (name, value) =>
    put entries name value) merged, ?_, fun field => ?_⟩
  · rw [entries, hfile]
    change Field.all.foldlM (putVariable sources.environment) (.mapping written) >>= _ = _
    rw [hmerged]
    change putOverrides sources.overrides (.mapping merged) >>= namedEntries = _
    rw [putOverrides_mapping]
    exact if_pos (List.all_eq_true.2 ((hasNames_foldl_put _ _).2 (hnames.2 hwritten)))
  · have hdistinct : ((givenOverrides sources.overrides).map Prod.fst).Nodup :=
      h.overrides.sublist (List.filter_sublist.map Prod.fst)
    rw [findEntry_foldl_put hdistinct, lookup_givenOverrides h.overrides, hfound,
      if_pos field.mem_all]

/-! ## What the values come to -/

/-- Settings from one value for each, with rules that compile. -/
def fromValues (values : Field → Value) : Except Failure Settings := do
  let settings ← (ofValues fun field => some (values field)).mapError .invalid
  let _ ← (Rule.compileAll settings.filterRules).mapError Failure.rule
  return settings

theorem checkField_getD {α : Type} (found : Field → Option Value) (field : Field)
    (check : Value → Checked α) (standard : α) (h : check field.standardValue = .ok standard) :
    checkField found field check standard =
      checkField (fun field => some ((found field).getD field.standardValue)) field check
        standard := by
  unfold checkField
  beta_reduce
  cases found field with
  | none =>
      change .ok standard = Checked.inside _ (check field.standardValue)
      rw [h]
      rfl
  | some value => rfl

/-- Where nothing is found it is as if the standard value were. -/
theorem ofValues_getD (found : Field → Option Value) :
    ofValues found = ofValues fun field => some ((found field).getD field.standardValue) := by
  rw [ofValues, checkField_getD found .appName checkText standard.appName rfl,
    checkField_getD found .databaseUrl checkText standard.databaseUrl rfl,
    checkField_getD found .logLevel checkLevel standard.logLevel rfl,
    checkField_getD found .filterRules checkRules standard.filterRules rfl]
  rfl

/-- Loading depends on one value for each setting only. -/
theorem load_eq_fromValues (h : sources.Layered written) :
    load sources = fromValues (sources.valueOf written) := by
  obtain ⟨merged, hmerged, hfound⟩ := entries_of_layered h
  rw [load, hmerged]
  change ((ofValues fun field => findEntry merged field.name).mapError Failure.invalid >>= _) = _
  simp only [hfound]
  rw [ofValues_getD]
  rfl

section
variable {values : Field → Value} {settings : Settings}

theorem fromValues_of_said (h : ∀ field, Says settings field (values field)) :
    fromValues values = (Rule.compileAll settings.filterRules).mapError Failure.rule >>=
      fun _ => pure settings := by
  rw [fromValues, ofValues_eq_ok_iff.2 h]
  rfl

theorem fromValues_of_not_said (h : ∃ field, ∀ settings, ¬ Says settings field (values field)) :
    fromValues values =
      .error (.invalid (Field.all.flatMap fun field => field.told (values field))) := by
  rw [fromValues, ofValues_of_not_said h]
  rfl

/-- Values say the settings that are made of them, and no others. -/
theorem says_iff_eq (h : ∀ field, Says settings field (values field)) (other : Settings) :
    (∀ field, Says other field (values field)) ↔ other = settings := by
  rw [← ofValues_eq_ok_iff, ofValues_eq_ok_iff.2 h, Except.ok.injEq, eq_comm]

end

/-- Loading depends on the values of the topmost layers only, one for each setting. If each of them
says something, then together they say exactly one thing, which is loaded if all its rules compile;
otherwise loading fails with the first rule that does not. If some value says nothing, loading fails
with what is told of all such values in the order of the settings, whatever the rules are. A value
that another one is put over is not looked at, nor is what has any other name. -/
theorem load_of_layered (h : sources.Layered written) :
    ((∀ field, ∃ settings, Says settings field (sources.valueOf written field)) →
      ∃ settings : Settings,
        (∀ other, (∀ field, Says other field (sources.valueOf written field)) ↔
          other = settings) ∧
        ((∀ rule ∈ settings.filterRules, ∃ compiled, rule.compile = .ok compiled) →
          load sources = .ok settings) ∧
        ((∃ rule ∈ settings.filterRules, ∀ compiled, rule.compile ≠ .ok compiled) →
          ∃ before rule after failure, settings.filterRules = before ++ rule :: after ∧
            (∀ earlier ∈ before, ∃ compiled, earlier.compile = .ok compiled) ∧
            rule.compile = .error failure ∧ load sources = .error (.rule failure))) ∧
    ((∃ field, ∀ settings, ¬ Says settings field (sources.valueOf written field)) →
      ∃ told : Field → List Problem,
        load sources = .error (.invalid (Field.all.flatMap told)) ∧
        ∀ field, (told field = [] ↔
            ∃ settings, Says settings field (sources.valueOf written field)) ∧
          ∀ problem ∈ told field, ∃ way, problem.path = .name field.name :: way) ∧
    ∀ {others : Sources} {entries : List (Scalar × Value)}, others.Layered entries →
      (∀ field, others.valueOf entries field = sources.valueOf written field) →
      load others = load sources := by
  rw [load_eq_fromValues h]
  refine ⟨fun hsaid => ?_, fun hsaid => ?_, fun hothers hvalues => ?_⟩
  · obtain ⟨settings, hsettings⟩ := exists_says_all hsaid
    refine ⟨settings, says_iff_eq hsettings, fun hcompile => ?_, fun hfails => ?_⟩
    · obtain ⟨compiled, hcompiled⟩ := exists_mapM_ok hcompile
      rw [fromValues_of_said hsettings, Rule.compileAll, hcompiled]
      rfl
    · obtain ⟨before, rule, after, failure, hsplit, hbefore, hrule⟩ := exists_first_error hfails
      refine ⟨before, rule, after, failure, hsplit, hbefore, hrule, ?_⟩
      rw [fromValues_of_said hsettings, Rule.compileAll, hsplit, mapM_error_of_first hbefore hrule]
      rfl
  · exact ⟨_, fromValues_of_not_said hsaid, fun field =>
      ⟨field.told_eq_nil_iff _, fun problem => Field.path_of_mem_told⟩⟩
  · rw [load_eq_fromValues hothers, funext hvalues]

end

/-- A file with a name that is no text and with what is no setting at all, a variable that is empty,
one with rules, and overrides. -/
def layeredSources (rules : String) (overrides : List (List Char × Value)) : Sources where
  file := some "app_name: [1]\nunknown: 2\n".toList
  environment := [("BOARDPOST_LOG_LEVEL", []), ("BOARDPOST_FILTER_RULES", rules.toList)]
  overrides := overrides

/-- A name that is put over the one in the file, and a level that says nothing. -/
def namedOverrides : List (List Char × Value) :=
  [("app_name".toList, .scalar (.text "My board".toList)), ("log_level".toList, .scalar .null)]

theorem layered_layeredSources {rules : String} {overrides : List (List Char × Value)}
    {meant : List (Scalar × Value) → Prop} [DecidablePred meant]
    (hfile : ((Yaml.read depth "app_name: [1]\nunknown: 2\n".toList).toOption.any fun value =>
      match value with
      | .mapping entries => decide (HasNames (.mapping entries) ∧ meant entries)
      | _ => false) = true)
    (hrules : (Yaml.read depth rules.toList).toOption.isSome = true)
    (hoverrides : (overrides.map Prod.fst).Nodup) :
    ∃ written, (layeredSources rules overrides).Layered written ∧ meant written := by
  obtain ⟨value, hread, hvalue⟩ := (Option.any_eq_true _ _).1 hfile
  cases value with
  | mapping entries =>
      obtain ⟨hnames, hmeant⟩ := of_decide_eq_true hvalue
      refine ⟨entries, ⟨.mapping (ok_of_toOption hread) hnames, ?_, hoverrides⟩, hmeant⟩
      intro text hlookup _
      obtain rfl : rules.toList = text := Option.some.inj hlookup
      obtain ⟨found, hfound⟩ := Option.isSome_iff_exists.1 hrules
      exact ⟨found, ok_of_toOption hfound⟩
  | _ => cases hvalue

/-- A name that is no text is told although there is a pattern with a bracket that is not closed; where
a name is put over it the bracket is told, and where the pattern is a good one nothing is. -/
theorem load_of_layered_named :
    (∃ written, (layeredSources "[{pattern: (}]" []).Layered written ∧
      ∃ problems, load (layeredSources "[{pattern: (}]" []) = .error (.invalid problems)) ∧
    (∃ written, (layeredSources "[{pattern: (}]" namedOverrides).Layered written ∧
      ∃ failure, load (layeredSources "[{pattern: (}]" namedOverrides) = .error (.rule failure)) ∧
    ∃ written, (layeredSources "[{pattern: a}]" namedOverrides).Layered written ∧
      load (layeredSources "[{pattern: a}]" namedOverrides) =
        .ok { standard with appName := "My board".toList, filterRules := [⟨['a'], []⟩] } := by
  have hunnamed : ∃ written, (layeredSources "[{pattern: (}]" []).Layered written ∧
      Field.told .appName ((layeredSources "[{pattern: (}]" []).valueOf written .appName) ≠ [] :=
    layered_layeredSources (by decide +kernel) (by decide +kernel) (by decide)
  have hopen : ∃ written, (layeredSources "[{pattern: (}]" namedOverrides).Layered written ∧
      (ofValues fun field =>
        some ((layeredSources "[{pattern: (}]" namedOverrides).valueOf written field)) =
        .ok { standard with appName := "My board".toList, filterRules := [Rule.openRule] } :=
    layered_layeredSources (by decide +kernel) (by decide +kernel) (by decide)
  have hgood : ∃ written, (layeredSources "[{pattern: a}]" namedOverrides).Layered written ∧
      (ofValues fun field =>
        some ((layeredSources "[{pattern: a}]" namedOverrides).valueOf written field)) =
        .ok { standard with appName := "My board".toList, filterRules := [⟨['a'], []⟩] } :=
    layered_layeredSources (by decide +kernel) (by decide +kernel) (by decide)
  refine ⟨?_, ?_, ?_⟩
  · obtain ⟨written, hlayered, htold⟩ := hunnamed
    obtain ⟨-, hinvalid, -⟩ := load_of_layered hlayered
    obtain ⟨told, hload, -⟩ := hinvalid ⟨.appName, fun settings hsaid =>
      htold ((Field.told_eq_nil_iff _ _).2 ⟨settings, hsaid⟩)⟩
    exact ⟨written, hlayered, _, hload⟩
  · obtain ⟨written, hlayered, hmade⟩ := hopen
    obtain ⟨hsaid, -, -⟩ := load_of_layered hlayered
    obtain ⟨settings, honly, -, hbad⟩ := hsaid fun field => ⟨_, ofValues_eq_ok_iff.1 hmade field⟩
    obtain rfl := (honly _).1 (ofValues_eq_ok_iff.1 hmade)
    obtain ⟨-, -, -, failure, -, -, -, hload⟩ :=
      hbad ⟨Rule.openRule, List.mem_cons_self, Rule.compile_openRule_ne_ok⟩
    exact ⟨written, hlayered, failure, hload⟩
  · obtain ⟨written, hlayered, hmade⟩ := hgood
    obtain ⟨hsaid, -, -⟩ := load_of_layered hlayered
    obtain ⟨settings, honly, hload, -⟩ := hsaid fun field => ⟨_, ofValues_eq_ok_iff.1 hmade field⟩
    obtain rfl := (honly _).1 (ofValues_eq_ok_iff.1 hmade)
    refine ⟨written, hlayered, hload ?_⟩
    rw [List.forall_mem_singleton]
    exact Rule.compiles_of_isSome (by decide +kernel)

end Imageboard.Settings
