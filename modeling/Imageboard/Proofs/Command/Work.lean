import Imageboard.Command.Run
import Imageboard.Proofs.Store.Effect

/-!
What commands come to. Settings and posts are read without regard to the rows, tables are opened
without a change of the rows, and only a submission that is accepted and a reset that succeeds leave
other rows behind.
-/
namespace Imageboard.Command
open Store (Tables PostRow ThreadRow plainSubmitPost plainSubmitThread plainRender)

section
variable {ε α β : Type} {x : ExceptT ε (StateM Databases) α}
  {f : α → ExceptT ε (StateM Databases) β} {d d' : Databases}

theorem run_bind_ok {a : α} (h : x.run.run d = (.ok a, d')) :
    (x >>= f).run.run d = (f a).run.run d' := by
  rw [ExceptT.run_bind, StateT.run_bind, h]
  rfl

theorem run_bind_error {e : ε} (h : x.run.run d = (.error e, d')) :
    (x >>= f).run.run d = (.error e, d') := by
  rw [ExceptT.run_bind, StateT.run_bind, h]
  rfl

end

section
variable {α β : Type} {x : Work α} {f : α → Work β} {d d' : Databases}

/-- Work in two steps stops short in the first, or goes on with what this gives. -/
theorem of_run_bind {outcome : Except Stop β} (h : (x >>= f).run.run d = (outcome, d')) :
    (∃ stop, x.run.run d = (.error stop, d') ∧ outcome = .error stop) ∨
      ∃ a between, x.run.run d = (.ok a, between) ∧ (f a).run.run between = (outcome, d') := by
  cases hx : x.run.run d with
  | mk found between =>
      cases found with
      | ok a =>
          rw [run_bind_ok hx] at h
          exact .inr ⟨a, between, rfl, h⟩
      | error stop =>
          rw [run_bind_error hx] at h
          obtain ⟨rfl, rfl⟩ := Prod.mk.inj h
          exact .inl ⟨stop, rfl, rfl⟩

theorem of_run_bind_of_run_eq {found : Except Stop α} {outcome : Except Stop β}
    (hx : x.run.run d = (found, d)) (h : (x >>= f).run.run d = (outcome, d')) :
    (∃ stop, outcome = .error stop ∧ d' = d) ∨
      ∃ a, found = .ok a ∧ (f a).run.run d = (outcome, d') := by
  rcases of_run_bind h with ⟨stop, hstop, rfl⟩ | ⟨a, between, ha, h⟩
  · rw [hx] at hstop
    exact .inl ⟨stop, rfl, (Prod.mk.inj hstop).2.symm⟩
  · rw [hx] at ha
    obtain ⟨rfl, rfl⟩ := Prod.mk.inj ha
    exact .inr ⟨a, rfl, h⟩

/-! ## Work that does not touch the tables -/

/-- Work that comes to the same whatever the files with tables hold, and leaves them as they are. -/
def Detached (x : Work α) : Prop := ∃ outcome, ∀ d, x.run.run d = (outcome, d)

theorem detached_pure (a : α) : Detached (pure a : Work α) := ⟨.ok a, fun _ => rfl⟩

theorem detached_throw (stop : Stop) : Detached (throw stop : Work α) :=
  ⟨.error stop, fun _ => rfl⟩

theorem Detached.bind (hx : Detached x) (hf : ∀ a, Detached (f a)) : Detached (x >>= f) := by
  obtain ⟨outcome, hx⟩ := hx
  cases outcome with
  | ok a =>
      obtain ⟨found, hf⟩ := hf a
      exact ⟨found, fun d => by rw [run_bind_ok (hx d), hf]⟩
  | error stop => exact ⟨.error stop, fun d => run_bind_error (hx d)⟩

theorem Detached.run_eq (h : Detached x) (d : Databases) :
    x.run.run d = ((x.run.run []).1, d) := by
  obtain ⟨outcome, h⟩ := h
  rw [h, h]

end

section
variable (s : Surroundings)

theorem detached_settingsText : Detached (settingsText s) := by
  unfold settingsText
  split
  · exact detached_pure _
  · split
    · exact detached_pure _
    · exact detached_throw _
  · exact detached_throw _
  · exact detached_throw _
  · exact detached_throw _

theorem detached_loadSettings : Detached (loadSettings s) := by
  refine (detached_settingsText s).bind fun text => ?_
  split
  · exact detached_pure _
  · exact detached_throw _

theorem detached_readBody (path : List Char) : Detached (readBody s path) := by
  unfold readBody
  split
  · exact detached_pure _
  · split
    · exact detached_throw _
    · exact detached_throw _
    · exact detached_throw _
    · exact detached_throw _
    · split
      · exact detached_pure _
      · exact detached_throw _

/-- The settings that a command loads. -/
def settingsIn : Except Stop Settings := ((loadSettings s).run.run []).1

/-- The post that a command reads. -/
def bodyIn (path : List Char) : Except Stop (List Char) := ((readBody s path).run.run []).1

theorem run_loadSettings (d : Databases) : (loadSettings s).run.run d = (settingsIn s, d) :=
  (detached_loadSettings s).run_eq d

theorem run_readBody (path : List Char) (d : Databases) :
    (readBody s path).run.run d = (bodyIn s path, d) :=
  (detached_readBody s path).run_eq d

end

/-- How a failure of the store stops a command. -/
def storeStop (message : String) (failure : Store.Failure) : Stop :=
  if failure.isForeseen then .report message.toList (some (failure.message?.getD "").toList)
  else .breakdown (.store failure)

theorem detached_submitted {α : Type} (message : String) (run : ExceptT Store.Failure Noted α) :
    Detached (submitted message run) := by
  unfold submitted
  split
  · exact detached_pure _
  · exact detached_throw _

/-- What the store is asked for comes to the same with and without notes. -/
theorem run_submitted {α : Type} {run : ExceptT Store.Failure Noted α}
    {plain : ExceptT Store.Failure Id α} (h : Noted.steady.Agrees run plain) (message : String)
    (d : Databases) : (submitted message run).run.run d =
      ((outcomeOf plain).mapError (storeStop message), d) := by
  have hrun : (run.run.run []).1 = outcomeOf plain := h []
  unfold submitted
  rw [hrun]
  cases outcomeOf plain <;> rfl

/-! ## The rows at a path -/

/-- The rows in the file at a path, none if it is not there. -/
def Databases.rows (d : Databases) (path : List Char) : Tables := (d.lookup path).getD .empty

section
variable {s : Surroundings} {d d' : Databases} {path : List Char}

theorem Databases.lookup_keep (d : Databases) (tables : Tables) (path : List Char) :
    (d.keep tables (.file path)).lookup path = some tables := by
  simp [keep]

theorem Databases.rows_keep (d : Databases) (tables : Tables) (path : List Char) :
    (d.keep tables (.file path)).rows path = tables := by
  rw [rows, lookup_keep, Option.getD_some]

theorem Databases.lookup_filter_ne {path other : List Char} (h : other ≠ path) (d : Databases) :
    List.lookup other (d.filter (·.1 != path)) = d.lookup other := by
  induction d with
  | nil => rfl
  | cons entry d ih =>
      obtain ⟨name, tables⟩ := entry
      by_cases hname : name = path
      · have hother : (other == name) = false := by
          rw [beq_eq_false_iff_ne, hname]
          exact h
        rw [List.filter_cons_of_neg (by simp [hname]), ih, List.lookup_cons, hother]
      · rw [List.filter_cons_of_pos (by simp [hname]), List.lookup_cons, List.lookup_cons, ih]

theorem Databases.rows_keep_of_ne {path other : List Char} (h : other ≠ path) (d : Databases)
    (tables : Tables) : (d.keep tables (.file path)).rows other = d.rows other := by
  rw [rows, keep, List.lookup_cons, beq_eq_false_iff_ne.2 h, lookup_filter_ne h, rows]

theorem Databases.eq_rows_of_tables {look : List Char → Entry} {found : Tables}
    (h : d.tables look (.file path) = .ok found) : found = d.rows path := by
  unfold Databases.tables at h
  unfold rows
  cases hlookup : d.lookup path with
  | some tables =>
      simp only [hlookup] at h
      exact (Except.ok.inj h).symm
  | none =>
      simp only [hlookup] at h
      split at h
      · cases h
      · obtain ⟨_, -, h⟩ := exists_ok_of_bind h
        exact (Except.ok.inj h).symm

theorem run_located {α : Type} (found : Except LocationFault α) (d : Databases) :
    (located found).run.run d = (found.mapError fun fault => .breakdown (.location fault), d) := by
  cases found <;> rfl

theorem run_get (d : Databases) : (get : Work Databases).run.run d = (.ok d, d) := rfl

theorem run_modify (f : Databases → Databases) (d : Databases) :
    (modify f : Work Unit).run.run d = (.ok (), f d) := rfl

/-- Tables are opened at the location that the address names and kept there as they are, or work
stops short without a change. -/
theorem run_openTables_cases {address : List Char} {outcome : Except Stop (Location × Tables)}
    (h : (openTables s address).run.run d = (outcome, d')) :
    (∃ stop, outcome = .error stop ∧ d' = d) ∨
      ∃ location tables, Location.ofAddress address = .ok location ∧
        d.tables s.look location = .ok tables ∧ outcome = .ok (location, tables) ∧
          d' = d.keep tables location := by
  rw [openTables] at h
  rcases of_run_bind_of_run_eq (run_located _ d) h with hstop | ⟨location, hlocation, h⟩
  · exact .inl hstop
  rw [run_bind_ok (run_get d)] at h
  rcases of_run_bind_of_run_eq (run_located _ d) h with hstop | ⟨tables, htables, h⟩
  · exact .inl hstop
  rw [run_bind_ok (run_modify _ d)] at h
  obtain ⟨rfl, rfl⟩ := Prod.mk.inj h
  exact .inr ⟨location, tables, ok_of_mapError hlocation, ok_of_mapError htables, rfl, rfl⟩

/-- Work with the tables in a file goes on with the rows that are there. -/
theorem of_run_openTables {α : Type} {address : List Char} {f : Location × Tables → Work α}
    {outcome : Except Stop α} (haddress : Location.ofAddress address = .ok (.file path))
    (h : (openTables s address >>= f).run.run d = (outcome, d')) :
    (∃ stop, outcome = .error stop ∧ d' = d) ∨
      (f (.file path, d.rows path)).run.run (d.keep (d.rows path) (.file path)) =
        (outcome, d') := by
  rcases of_run_bind h with ⟨stop, hopened, rfl⟩ | ⟨found, between, hopened, h⟩
  · rcases run_openTables_cases hopened with ⟨-, -, rfl⟩ | ⟨_, _, -, -, hok, -⟩
    · exact .inl ⟨stop, rfl, rfl⟩
    · cases hok
  · rcases run_openTables_cases hopened with ⟨_, herror, -⟩ | ⟨location, tables, hlocation, htables,
      hok, rfl⟩
    · cases herror
    · rw [haddress] at hlocation
      obtain rfl := Except.ok.inj hlocation
      obtain rfl := Databases.eq_rows_of_tables htables
      obtain rfl := Except.ok.inj hok
      exact .inr h

theorem rows_of_run_openTables {address : List Char} {location : Location} {tables : Tables}
    (h : (openTables s address).run.run d = (.ok (location, tables), d')) (path : List Char) :
    d'.rows path = d.rows path := by
  rcases run_openTables_cases h with ⟨_, herror, -⟩ | ⟨found, opened, -, hopened, -, rfl⟩
  · cases herror
  cases found with
  | memory => rfl
  | file name =>
      obtain rfl := Databases.eq_rows_of_tables hopened
      by_cases hname : path = name
      · rw [hname, Databases.rows_keep]
      · exact Databases.rows_keep_of_ne hname d _

end

/-! ## What commands come to -/

/-- All that a command can come to in surroundings, given the rows that are there, with the rows that
it leaves behind. -/
inductive Ran (s : Surroundings) (rows : Tables) : Command → Outcome → Tables → Prop where
  | stopped (command : Command) (stop : Stop) : Ran s rows command (.error stop) rows
  | initialized (text : List Char) : Ran s rows (.init false) (.ok text) rows
  | emptied (text : List Char) : Ran s rows (.init true) (.ok text) .empty
  | opened {board path raw : List Char} {settings : Settings} {tables : Tables} {row : ThreadRow}
      {post : PostRow} (loaded : settingsIn s = .ok settings) (read : bodyIn s path = .ok raw)
      (made : outcomeOf (plainSubmitThread (some rows) board raw settings.filterRules) =
        .ok (tables, row, post)) :
      Ran s rows (.thread board path) (.ok (createdLine "thread" row.id tables post.id)) tables
  | replied {thread : Int} {path raw : List Char} {settings : Settings} {tables : Tables}
      {post : PostRow} (loaded : settingsIn s = .ok settings) (read : bodyIn s path = .ok raw)
      (made : outcomeOf (plainSubmitPost (some rows) thread raw settings.filterRules) =
        .ok (tables, post)) :
      Ran s rows (.post thread path) (.ok (createdLine "post" post.id tables post.id)) tables
  | rendered (path : List Char) (resolve : Bool) (text : List Char) :
      Ran s rows (.render path resolve) (.ok text) rows
  | listed (text : List Char) : Ran s rows .rules (.ok text) rows

section
variable {s : Surroundings} {d d' : Databases} {path : List Char} {outcome : Outcome}
  (hurl : ∀ settings, settingsIn s = .ok settings →
    Location.ofAddress settings.databaseUrl = .ok (.file path))
include hurl

theorem ran_init {reset : Bool} (h : (runInit s reset).run.run d = (outcome, d')) :
    Ran s (d.rows path) (.init reset) outcome (d'.rows path) := by
  rcases of_run_bind_of_run_eq (run_loadSettings s d) h with
    ⟨stop, rfl, rfl⟩ | ⟨settings, hsettings, h⟩
  · exact .stopped _ stop
  rcases of_run_openTables (hurl settings hsettings) h with ⟨stop, rfl, rfl⟩ | h
  · exact .stopped _ stop
  cases reset with
  | true =>
      obtain ⟨rfl, rfl⟩ := Prod.mk.inj h
      rw [Databases.rows_keep]
      exact .emptied _
  | false =>
      obtain ⟨rfl, rfl⟩ := Prod.mk.inj h
      rw [Databases.rows_keep]
      exact .initialized _

theorem ran_thread {board file : List Char}
    (h : (runThread s board file).run.run d = (outcome, d')) :
    Ran s (d.rows path) (.thread board file) outcome (d'.rows path) := by
  rcases of_run_bind_of_run_eq (run_loadSettings s d) h with
    ⟨stop, rfl, rfl⟩ | ⟨settings, hsettings, h⟩
  · exact .stopped _ stop
  rcases of_run_bind_of_run_eq (run_readBody s file d) h with
    ⟨stop, rfl, rfl⟩ | ⟨raw, hraw, h⟩
  · exact .stopped _ stop
  rcases of_run_openTables (hurl settings hsettings) h with ⟨stop, rfl, rfl⟩ | h
  · exact .stopped _ stop
  have hsubmitted := run_submitted (Store.submitThread_agrees (some (d.rows path)) board raw
    settings.filterRules) "Post rejected" (d.keep (d.rows path) (.file path))
  rcases of_run_bind_of_run_eq hsubmitted h with ⟨stop, rfl, rfl⟩ | ⟨⟨tables, row, post⟩, hmade, h⟩
  · rw [Databases.rows_keep]
    exact .stopped _ stop
  · obtain ⟨rfl, rfl⟩ := Prod.mk.inj h
    rw [Databases.rows_keep]
    exact .opened hsettings hraw (ok_of_mapError hmade)

theorem ran_post {thread : Int} {file : List Char}
    (h : (runPost s thread file).run.run d = (outcome, d')) :
    Ran s (d.rows path) (.post thread file) outcome (d'.rows path) := by
  rcases of_run_bind_of_run_eq (run_loadSettings s d) h with
    ⟨stop, rfl, rfl⟩ | ⟨settings, hsettings, h⟩
  · exact .stopped _ stop
  rcases of_run_bind_of_run_eq (run_readBody s file d) h with
    ⟨stop, rfl, rfl⟩ | ⟨raw, hraw, h⟩
  · exact .stopped _ stop
  rcases of_run_openTables (hurl settings hsettings) h with ⟨stop, rfl, rfl⟩ | h
  · exact .stopped _ stop
  have hsubmitted := run_submitted (Store.submitPost_agrees (some (d.rows path)) thread raw
    settings.filterRules) "Post rejected" (d.keep (d.rows path) (.file path))
  rcases of_run_bind_of_run_eq hsubmitted h with ⟨stop, rfl, rfl⟩ | ⟨⟨tables, post⟩, hmade, h⟩
  · rw [Databases.rows_keep]
    exact .stopped _ stop
  · obtain ⟨rfl, rfl⟩ := Prod.mk.inj h
    rw [Databases.rows_keep]
    exact .replied hsettings hraw (ok_of_mapError hmade)

theorem ran_render {file : List Char} {resolve : Bool}
    (h : (runRender s file resolve).run.run d = (outcome, d')) :
    Ran s (d.rows path) (.render file resolve) outcome (d'.rows path) := by
  rcases of_run_bind_of_run_eq (run_loadSettings s d) h with
    ⟨stop, rfl, rfl⟩ | ⟨settings, hsettings, h⟩
  · exact .stopped _ stop
  rcases of_run_bind_of_run_eq (run_readBody s file d) h with
    ⟨stop, rfl, rfl⟩ | ⟨raw, hraw, h⟩
  · exact .stopped _ stop
  -- What is printed does not matter here, only that nothing is kept any more.
  have hprinted : ∀ lookup, Detached (submitted "Could not parse post"
      (ExceptT.adapt Store.Failure.rejected (Post.render settings.filterRules lookup raw)) >>=
        fun html => pure (line [html])) :=
    fun lookup => (detached_submitted _ _).bind fun html => detached_pure _
  have hrendered : ∀ lookup before, (submitted "Could not parse post"
      (ExceptT.adapt Store.Failure.rejected (Post.render settings.filterRules lookup raw)) >>=
        fun html => pure (line [html])).run.run before = (outcome, d') → d' = before := by
    intro lookup before hrun
    rw [(hprinted lookup).run_eq] at hrun
    exact (Prod.mk.inj hrun).2.symm
  have hrows : d'.rows path = d.rows path := by
    cases resolve with
    | true =>
        rw [if_pos rfl] at h
        rcases of_run_openTables (hurl settings hsettings) h with ⟨stop, rfl, rfl⟩ | h
        · rfl
        · rw [hrendered _ _ h, Databases.rows_keep]
    | false => rw [hrendered _ _ h]
  rw [hrows]
  cases outcome with
  | ok text => exact .rendered file resolve text
  | error stop => exact .stopped _ stop

omit hurl in
theorem ran_rules (h : (runRules s).run.run d = (outcome, d')) :
    Ran s (d.rows path) .rules outcome (d'.rows path) := by
  have hdetached : Detached (runRules s) := by
    refine (detached_loadSettings s).bind fun settings => ?_
    dsimp only
    split <;> exact detached_pure _
  rw [hdetached.run_eq] at h
  obtain ⟨-, rfl⟩ := Prod.mk.inj h
  cases outcome with
  | ok text => exact .listed text
  | error stop => exact .stopped _ stop

theorem ran_run {command : Command} (h : command.run s d = (outcome, d')) :
    Ran s (d.rows path) command outcome (d'.rows path) := by
  cases command with
  | init reset => exact ran_init hurl h
  | thread board file => exact ran_thread hurl h
  | post thread file => exact ran_post hurl h
  | render file resolve => exact ran_render hurl h
  | rules => exact ran_rules h

end

end Imageboard.Command
