import EventForge.Proofs.Store.EmptyDatabase
import EventForge.Proofs.Store.TableProgress

/-!
# Interrupted migrations

A migration decides anew for each table what is missing.  What it decides behind some of its own
statements are the others: it goes on where it was interrupted, and behind its end it has nothing to
do.
-/

namespace EventForge

open SqlToken Outcome

namespace Migration

/-! ## Whole migrations -/

/-- Whether targets are all brought up to date by some statements. -/
def Completes (connection : Connection) (targets : List Target) (texts : List Text)
    (after : Connection) : Prop :=
  migrateAll connection targets = { error := none, applied := texts, connection := after }

theorem completes_nil (connection after : Connection) (texts : List Text) :
    Completes connection [] texts after ↔ texts = [] ∧ after = connection := by
  simp only [Completes, migrateAll, Outcome.mk.injEq, true_and]
  constructor
  · rintro ⟨rfl, rfl⟩
    exact ⟨rfl, rfl⟩
  · rintro ⟨rfl, rfl⟩
    exact ⟨rfl, rfl⟩

theorem completes_cons (connection after : Connection) (target : Target) (targets : List Target)
    (texts : List Text) :
    Completes connection (target :: targets) texts after ↔
      ∃ first middle others, Brings connection target first middle ∧
        Completes middle targets others after ∧ texts = first ++ others := by
  unfold Completes Brings
  rw [migrateAll, migrateTable]
  obtain ⟨stopped, applied, middle⟩ := applyTarget connection target
  cases stopped with
  | some fault => simp
  | none =>
      simp only [Outcome.mk.injEq, Progress.mk.injEq, true_and]
      constructor
      · rintro ⟨noError, rfl, rfl⟩
        refine ⟨applied, middle, _, ⟨rfl, rfl⟩, ?_, rfl⟩
        rw [← noError]
      · rintro ⟨_, _, others, ⟨rfl, rfl⟩, completes, rfl⟩
        rw [completes]
        exact ⟨rfl, rfl, rfl⟩

/-- A migration without an error completes. -/
theorem completes_migrateAll (connection : Connection) (targets : List Target)
    (succeeds : (migrateAll connection targets).error = none) :
    Completes connection targets (migrateAll connection targets).applied
      (migrateAll connection targets).connection := by
  unfold Completes
  rw [← succeeds]

/-- Whether the columns of targets can be made, and include a time of creation. -/
def AreProper (targets : List Target) : Prop :=
  ∀ target ∈ targets, target.IsProper ∧ ∃ column ∈ target.columns, column.1 = "created_at"

theorem Completes.reaches {connection after : Connection} {targets : List Target} {texts : List Text}
    (completes : Completes connection targets texts after) : Reaches connection texts after := by
  induction targets generalizing connection texts with
  | nil =>
      obtain ⟨rfl, same⟩ := (completes_nil _ _ _).mp completes
      exact (reaches_nil _ _).mpr same
  | cons target targets ih =>
      obtain ⟨first, middle, others, brings, rest, rfl⟩ := (completes_cons _ _ _ _ _).mp completes
      exact (reaches_append _ _ _ _).mpr ⟨middle, brings.reaches, ih rest⟩

theorem isStatementOf_completes {connection after : Connection} {targets : List Target}
    {texts : List Text} (completes : Completes connection targets texts after) :
    ∀ text ∈ texts, ∃ target ∈ targets, IsStatementOf target text := by
  induction targets generalizing connection texts with
  | nil =>
      obtain ⟨rfl, _⟩ := (completes_nil _ _ _).mp completes
      simp
  | cons target targets ih =>
      obtain ⟨first, middle, others, brings, rest, rfl⟩ := (completes_cons _ _ _ _ _).mp completes
      intro text member
      rcases List.mem_append.mp member with own | later
      · exact ⟨target, by simp, isStatementOf_brings brings text own⟩
      · obtain ⟨other, listed, found⟩ := ih rest text later
        exact ⟨other, by simp [listed], found⟩

theorem isAddition_completes {connection after : Connection} {targets : List Target}
    (proper : AreProper targets) {texts : List Text}
    (completes : Completes connection targets texts after) : ∀ text ∈ texts, IsAddition text := by
  intro text member
  obtain ⟨target, listed, own⟩ := isStatementOf_completes completes text member
  exact own.isAddition (proper target listed).1.isPlain.isSpelled

/-- A migration behind some of the statements of another one executes the others. -/
theorem completes_behind {connection middle after : Connection} {targets : List Target}
    (proper : AreProper targets) (suits : Suits connection targets) {done rest : List Text}
    (completes : Completes connection targets (done ++ rest) after)
    (reaches : Reaches connection done middle) : Completes middle targets rest after := by
  induction targets generalizing connection done with
  | nil =>
      obtain ⟨none, rfl⟩ := (completes_nil _ _ _).mp completes
      obtain ⟨rfl, rfl⟩ := List.append_eq_nil_iff.mp none
      obtain rfl := (reaches_nil _ _).mp reaches
      exact completes
  | cons target targets ih =>
      obtain ⟨isProper, dated⟩ := proper target (by simp)
      have properRest : AreProper targets := fun other member => proper other (by simp [member])
      have suitsOwn : Suits connection [target] := suits.of_subset (by simp)
      have suitsRest : Suits connection targets := suits.of_subset (by simp)
      obtain ⟨first, between, others, brings, later, parts⟩ := (completes_cons _ _ _ _ _).mp completes
      rcases List.append_eq_append_iff.mp parts with ⟨left, rfl, rfl⟩ | ⟨beyond, rfl, rfl⟩
      · -- The statements end inside those of the first table.
        have resumed := brings_behind isProper dated suitsOwn brings reaches
        exact (completes_cons _ _ _ _ _).mpr ⟨left, between, others, resumed, later, rfl⟩
      · -- The first table is up to date.
        obtain ⟨same, lower, upper⟩ := (reaches_append _ _ _ _).mp reaches
        obtain rfl := lower.unique brings.reaches
        have additions := isAddition_completes properRest later
        have resumed := ih properRest (suitsRest.reaches (isAddition_brings isProper brings) lower)
          later upper
        have beyondAdditions : ∀ text ∈ beyond, IsAddition text :=
          fun text member => additions text (List.mem_append_left _ member)
        have upToDate := (upToDate_brings isProper dated suitsOwn brings).grows
          (upper.grows beyondAdditions)
        exact (completes_cons _ _ _ _ _).mpr ⟨[], middle, rest,
          brings_upToDate (reaches.isReady suits.ready) isProper upToDate, resumed, rfl⟩

/-- All tables are up to date behind a whole migration. -/
theorem upToDate_completes {connection after : Connection} {targets : List Target}
    (proper : AreProper targets) (suits : Suits connection targets) {texts : List Text}
    (completes : Completes connection targets texts after) :
    ∀ target ∈ targets, UpToDate after.database target := by
  induction targets generalizing connection texts with
  | nil => simp
  | cons target targets ih =>
      obtain ⟨first, middle, others, brings, rest, rfl⟩ := (completes_cons _ _ _ _ _).mp completes
      obtain ⟨isProper, dated⟩ := proper target (by simp)
      have properRest : AreProper targets := fun other member => proper other (by simp [member])
      have suitsOwn : Suits connection [target] := suits.of_subset (by simp)
      have suitsRest : Suits connection targets := suits.of_subset (by simp)
      have additions := isAddition_completes properRest rest
      intro other member
      rcases List.mem_cons.mp member with rfl | later
      · exact (upToDate_brings isProper dated suitsOwn brings).grows (rest.reaches.grows additions)
      · exact ih properRest (suitsRest.reaches (isAddition_brings isProper brings) brings.reaches) rest
          other later

/-- A migration of targets that are up to date does nothing. -/
theorem completes_upToDate {connection : Connection} (ready : connection.IsReady)
    {targets : List Target} (proper : AreProper targets)
    (upToDate : ∀ target ∈ targets, UpToDate connection.database target) :
    Completes connection targets [] connection := by
  induction targets with
  | nil => exact (completes_nil _ _ _).mpr ⟨rfl, rfl⟩
  | cons target targets ih =>
      have rest := ih (fun other member => proper other (by simp [member]))
        fun other member => upToDate other (by simp [member])
      have own := brings_upToDate ready (proper target (by simp)).1 (upToDate target (by simp))
      exact (completes_cons _ _ _ _ _).mpr ⟨[], connection, [], own, rest, rfl⟩

theorem isReady_of_completes {connection after : Connection} {targets : List Target}
    {texts : List Text} (completes : Completes connection targets texts after)
    (inhabited : targets ≠ []) : connection.IsReady := by
  cases targets with
  | nil => exact absurd rfl inhabited
  | cons target targets =>
      obtain ⟨first, middle, others, brings, _⟩ := (completes_cons _ _ _ _ _).mp completes
      obtain ⟨existing, _, _, columns, _⟩ := (brings_iff _ _ _ _).mp brings
      exact isReady_of_columns columns

/-- A migration can be interrupted behind each of its statements. -/
theorem completes_interrupted {connection after : Connection} {targets : List Target}
    (proper : AreProper targets) (columns : HasColumns connection.database)
    (views : ∀ target ∈ targets, connection.database.view? target.table = none)
    {done rest : List Text} (completes : Completes connection targets (done ++ rest) after) :
    ∃ middle, Reaches connection done middle ∧ Completes middle targets rest after := by
  by_cases inhabited : targets = []
  · subst inhabited
    obtain ⟨none, rfl⟩ := (completes_nil _ _ _).mp completes
    obtain ⟨rfl, rfl⟩ := List.append_eq_nil_iff.mp none
    exact ⟨after, (reaches_nil _ _).mpr rfl, completes⟩
  · have suits : Suits connection targets := ⟨isReady_of_completes completes inhabited, columns, views⟩
    obtain ⟨middle, reaches, _⟩ := (reaches_append _ _ _ _).mp completes.reaches
    exact ⟨middle, reaches, completes_behind proper suits completes reaches⟩

theorem Reaches.same {connection after : Connection} {texts : List Text}
    (reaches : Reaches connection texts after) :
    after = { connection with database := after.database } := by
  induction texts generalizing connection with
  | nil => rw [(reaches_nil _ _).mp reaches]
  | cons text texts ih =>
      obtain ⟨rows, middle, executed, others⟩ := (reaches_cons _ _ _ _).mp reaches
      obtain ⟨_, _, _, _, _, same⟩ := Connection.yields_execute connection text [] _ executed
      have same : middle = _ := same
      have last := ih others
      rw [same] at last
      exact last

/-! ## Modules of schemas -/

open Compilation

section Schema

variable (schema : RawSchema) (sourcePath : Option Text) (accepted : Validation.Accepts schema)

include accepted

theorem areProper_moduleOf (plain : schema.HasPlainNames) :
    AreProper ((moduleOf schema sourcePath).classes.map Target.ofClass) := by
  have plan := isPlan_moduleOf schema sourcePath accepted plain
  exact fun target member => ⟨plan.proper target member, plan.dated target member⟩

theorem views_moduleOf (database : Database)
    (views : ∀ event ∈ schema.events, database.view? event.name = none) :
    ∀ target ∈ (moduleOf schema sourcePath).classes.map Target.ofClass,
      database.view? target.table = none := by
  intro target member
  obtain ⟨eventClass, classMember, rfl⟩ := List.mem_map.mp member
  obtain ⟨event, eventMember, rfl⟩ := (mem_classes_moduleOf schema sourcePath _).mp classMember
  rw [ofClass_classOf event (accepted.events event eventMember)]
  exact views event eventMember

end Schema

section Module

variable (schema : RawSchema) (sourcePath : Option Text) (compiled : CompiledSchema)
  (made : compileRaw schema sourcePath = .ok compiled) (session : ScriptState)
  (reference path : Text) (loads : (EventModule.ofCompiled compiled).Loads session reference path)
  (connection after : Connection) (columns : HasColumns connection.database)
  (views : ∀ event ∈ schema.events, connection.database.view? event.name = none)

include made loads columns views

/-- The statements of a migration that succeeds lead from the database to what it leaves, there are
none exactly if it changes nothing, and a second migration does nothing. -/
theorem migrate_is_faithful (texts : List Text)
    (migrated : migrate connection (EventModule.ofCompiled compiled) =
      { error := none, applied := texts, connection := after }) :
    applyAll connection texts = { stopped := none, applied := texts, connection := after } ∧
      (texts = [] ↔ after.database = connection.database) ∧
      migrate after (EventModule.ofCompiled compiled) =
        { error := none, applied := [], connection := after } := by
  obtain ⟨accepted, rfl⟩ := of_compileRaw schema sourcePath compiled made
  have plain := hasPlainNames_of_loads schema sourcePath accepted session reference path loads
  have completes : Completes connection ((moduleOf schema sourcePath).classes.map Target.ofClass)
      (texts ++ []) after := by
    rw [List.append_nil]
    exact migrated
  obtain ⟨middle, reaches, again⟩ := completes_interrupted
    (areProper_moduleOf schema sourcePath accepted plain) columns
    (views_moduleOf schema sourcePath accepted _ views) completes
  rw [List.append_nil] at completes
  obtain rfl := reaches.unique completes.reaches
  refine ⟨completes.reaches, ?_, again⟩
  constructor
  · rintro rfl
    rw [(reaches_nil _ _).mp reaches]
  · intro unchanged
    have same := reaches.same
    rw [unchanged] at same
    rw [same] at again
    exact congrArg Outcome.applied (migrated.symm.trans again)

/-- A migration that is interrupted behind some of its statements executes the others when it is made
again, and leaves what it would have left. -/
theorem migrate_survives_interruption (done rest : List Text)
    (migrated : migrate connection (EventModule.ofCompiled compiled) =
      { error := none, applied := done ++ rest, connection := after }) :
    ∃ middle, applyAll connection done =
        { stopped := none, applied := done, connection := middle } ∧
      migrate middle (EventModule.ofCompiled compiled) =
        { error := none, applied := rest, connection := after } := by
  obtain ⟨accepted, rfl⟩ := of_compileRaw schema sourcePath compiled made
  have plain := hasPlainNames_of_loads schema sourcePath accepted session reference path loads
  exact completes_interrupted (areProper_moduleOf schema sourcePath accepted plain) columns
    (views_moduleOf schema sourcePath accepted _ views) migrated

end Module

/-! ### Events with a time alone -/

/-- What is to be brought up to date for an event that has a time alone. -/
def timedTarget (name : Text) : Target where
  table := name
  columns := [("time", "BIGINT"), ("created_at", "BIGINT")]
  timeColumn := "time"

theorem ofClass_timedEvent (name : Text) (usable : Identifier.isUsable name = true) :
    Target.ofClass (classOf (timedEvent name)) = timedTarget name := by
  rw [ofClass_classOf _ (acceptsEvent_timedEvent name usable),
    columnDefinitions_alone _ (.text "timestamp") rfl]
  rfl

theorem targets_timedSchema (names : List Text)
    (sorted : names.Pairwise fun first second => Text.le first second = true)
    (accepted : Validation.Accepts (timedSchema names)) :
    (moduleOf (timedSchema names) none).classes.map Target.ofClass = names.map timedTarget := by
  have inOrder : Validation.sortEvents (timedSchema names).events = names.map timedEvent :=
    List.mergeSort_of_pairwise (List.pairwise_map.mpr sorted)
  rw [classes_moduleOf, inOrder, List.map_map, List.map_map]
  refine List.map_congr_left fun name member => ?_
  have listed := (mem_timedSchema names _).mpr ⟨name, member, rfl⟩
  exact ofClass_timedEvent name (accepted.events _ listed).nameUsable

theorem isName_logout : IsName "logout" := ⟨by decide, Identifier.isUsable_logout⟩

theorem isProper_timedTarget (name : Text) (named : IsName name) : (timedTarget name).IsProper := by
  refine ⟨⟨named, by simp [timedTarget], ?_, ?_, isName_time⟩, ?_, ⟨_, List.mem_cons_self .., rfl⟩⟩
  · intro column member
    simp only [timedTarget, List.mem_cons, List.not_mem_nil, or_false] at member
    rcases member with rfl | rfl
    · exact isName_time
    · exact isName_created
  · intro column member
    simp only [timedTarget, List.mem_cons, List.not_mem_nil, or_false] at member
    rcases member with rfl | rfl <;> exact .inr rfl
  · have apart : [("time" : Text).toAsciiLower, ("created_at" : Text).toAsciiLower].Nodup := by decide
    exact apart

/-- The statements for an empty database. -/
def loginTexts : List Text :=
  [createTableText (timedTarget "login")] ++ [createIndexText (timedTarget "login")]

theorem loginSchema_completes :
    ∃ compiled after, compileRaw loginSchema none = .ok compiled ∧
      (EventModule.ofCompiled compiled).Loads bareSession "events.py" "events.py" ∧
      HasColumns emptyConnection.database ∧
      (∀ event ∈ loginSchema.events, emptyConnection.database.view? event.name = none) ∧
      migrate emptyConnection (EventModule.ofCompiled compiled) =
        { error := none, applied := loginTexts, connection := after } := by
  have made := compileRaw_eq loginSchema none
    ((Validation.errors_eq_nil_iff _).mpr accepts_loginSchema)
  have loads := loads_timedSchema ["login"] (by decide) (by simp) accepts_loginSchema bareSession
    "events.py" "events.py"
  have targets := targets_timedSchema ["login"] (by simp) accepts_loginSchema
  have empty : Holds emptyConnection.database [] fun _ => [] := holds_empty _
  have new : (timedTarget "login").IsNew [] := ⟨by simp, by simp⟩
  obtain ⟨after, migrated, _, _⟩ := migrateTable_free ⟨rfl, rfl⟩ (timedTarget "login")
    (isProper_timedTarget "login" isName_login) empty new rfl ⟨by simp, by simp, by decide⟩
  have columns : HasColumns emptyConnection.database := by
    intro name table found
    cases found
  have migrates : migrate emptyConnection (moduleOf (timedSchema ["login"]) none) =
      { error := none, applied := loginTexts, connection := after } := by
    rw [migrate, targets]
    simp [migrateAll, migrated, loginTexts]
  exact ⟨_, after, made, loads, columns, fun _ _ => rfl, migrates⟩

theorem loginSchema_is_faithful : ∃ compiled after,
    migrate emptyConnection (EventModule.ofCompiled compiled) =
        { error := none, applied := loginTexts, connection := after } ∧
      applyAll emptyConnection loginTexts =
        { stopped := none, applied := loginTexts, connection := after } ∧
      (loginTexts = [] ↔ after.database = emptyConnection.database) ∧
      migrate after (EventModule.ofCompiled compiled) =
        { error := none, applied := [], connection := after } := by
  obtain ⟨compiled, after, made, loads, columns, views, migrated⟩ := loginSchema_completes
  exact ⟨compiled, after, migrated, migrate_is_faithful loginSchema none compiled made bareSession
    "events.py" "events.py" loads emptyConnection after columns views loginTexts migrated⟩

theorem loginSchema_survives_interruption : ∃ compiled middle after,
    migrate emptyConnection (EventModule.ofCompiled compiled) =
        { error := none, applied := loginTexts, connection := after } ∧
      applyAll emptyConnection [createTableText (timedTarget "login")] =
        { stopped := none, applied := [createTableText (timedTarget "login")],
          connection := middle } ∧
      migrate middle (EventModule.ofCompiled compiled) =
        { error := none, applied := [createIndexText (timedTarget "login")], connection := after } := by
  obtain ⟨compiled, after, made, loads, columns, views, migrated⟩ := loginSchema_completes
  obtain ⟨middle, interrupted, resumed⟩ := migrate_survives_interruption loginSchema none compiled made
    bareSession "events.py" "events.py" loads emptyConnection after columns views
    [createTableText (timedTarget "login")] [createIndexText (timedTarget "login")] migrated
  exact ⟨compiled, middle, after, migrated, interrupted, resumed⟩

/-! ### A view of a table that grows -/

/-- Rows of two values and those of a table with one more. -/
def viewedQuery : SqlQuery :=
  .compound .unionAll
    (.select false [.value (.constant (.integer 0)) (some "time") "0",
      .value (.constant (.integer 0)) (some "created_at") "0"] [] none [] none)
    (.select false [.all, .value (.constant (.integer 0)) none "0"]
      [.joined {} (.table none "logout" none none) none []] none [] none)

/-- A database with a table that is viewed together with other rows, whatever it records of the
statements that made it. -/
def viewedWith (columns : List (Text × Text)) (indexes : List SqlIndex) (record : Database) :
    Database :=
  { record with
    tables := [.plain "logout" columns]
    indexes := .plain "idx_login_time" "logout" "time" .binary :: indexes
    views := [{ name := "login", columns := [], query := viewedQuery }]
    triggers := [] }

theorem reaches_viewed {connection : Connection} {text : Text} {columns : List (Text × Text)}
    {indexes : List SqlIndex} {after record : Database}
    (executed : connection.execute text [] = .ok ([], { database := after }))
    (same : after.SameContent (viewedWith columns indexes record)) :
    Reaches connection [text] { database := viewedWith columns indexes after } := by
  have whole : after = viewedWith columns indexes after := by
    obtain ⟨tables, indexes, views, triggers, objects, pageCount, freePages, version⟩ := after
    obtain ⟨rfl, rfl, rfl, rfl⟩ := same
    rfl
  rw [← whole]
  exact (reaches_cons _ _ _ _).mpr ⟨_, _, executed, (reaches_nil _ _).mpr rfl⟩

def viewedConnection : Connection where
  database := viewedWith [("time", "BIGINT")] [] .empty

/-- The connection behind the statements for the viewed table. -/
def viewedGrown (indexes : List SqlIndex) (record : Database) : Connection where
  database := viewedWith (timedTarget "logout").columns indexes record

def logoutColumnText : Text := addColumnText "logout" ("created_at", "BIGINT")

theorem reaches_logoutColumn : ∃ record, Reaches viewedConnection [logoutColumnText]
    (viewedGrown [] record) := by
  have spelled := spells_addColumnTokens "logout" ("created_at", "BIGINT") isName_logout.plain
    isName_created.plain (by decide) [] .nil (by simp [EndsVariable])
  rw [List.append_nil] at spelled
  have executed := Connection.execute_definition viewedConnection ⟨rfl, rfl⟩
    (addColumnTokens "logout" ("created_at", "BIGINT")) spelled _
    (ofText_addColumn "logout" ("created_at", "BIGINT") isName_logout isName_created (.inr rfl))
    (fun _ => rfl) rfl rfl
  rw [← addColumnText_eq] at executed
  have defined : viewedConnection.database.define [] false (.addColumn (SqlReader.plainObject "logout")
      [.column "created_at" "BIGINT"] none false) =
        .ok (viewedWith (timedTarget "logout").columns [] .empty) := by rfl
  rw [defined] at executed
  have same := Database.sameContent_recorded viewedConnection.database
    (addColumnTokens "logout" ("created_at", "BIGINT"))
    (.addColumn (SqlReader.plainObject "logout") [.column "created_at" "BIGINT"] none false)
    (viewedWith (timedTarget "logout").columns [] .empty)
  exact ⟨_, reaches_viewed executed same⟩

theorem reaches_logoutIndex (record : Database) : ∃ later,
    Reaches (viewedGrown [] record) [createIndexText (timedTarget "logout")]
      (viewedGrown [(timedTarget "logout").index] later) := by
  have proper := isProper_timedTarget "logout" isName_logout
  have executed := execute_createIndex (viewedGrown [] record) ⟨rfl, rfl⟩ (timedTarget "logout")
    proper.toIsNamed ((timedTarget "logout").tableWith []) rfl
    (isSound_tableWith _ proper.distinct) 0 (.plain ("time", "BIGINT")) rfl rfl
  have created : (viewedGrown [] record).database.createIndex (timedTarget "logout").indexText =
      .ok (viewedWith (timedTarget "logout").columns [(timedTarget "logout").index] record) := by rfl
  rw [created] at executed
  have same := Database.sameContent_recorded (viewedGrown [] record).database
    (createIndexTokens (timedTarget "logout")) (.createIndex (timedTarget "logout").indexText)
    (viewedWith (timedTarget "logout").columns [(timedTarget "logout").index] record)
  exact ⟨_, reaches_viewed executed same⟩

/-- The view cannot be read behind the statements. -/
theorem migrateAll_viewedGrown (indexes : List SqlIndex) (record : Database) (targets : List Target) :
    (migrateAll (viewedGrown indexes record) (timedTarget "login" :: targets)).error ≠ none := by
  obtain ⟨fault, refused⟩ : ∃ fault,
      (viewedGrown indexes record).database.columnNames "login" = .error fault := ⟨_, rfl⟩
  have columns : (viewedGrown indexes record).columns (timedTarget "login").table = _ :=
    Connection.columns_eq (viewedGrown indexes record) ⟨rfl, rfl⟩ "login" isName_login
  rw [refused, mapError_error] at columns
  have unread : migrateTable (viewedGrown indexes record) (timedTarget "login") = _ :=
    migrateTable_unread columns
  simp [migrateAll, unread]

theorem viewedConnection_completes : ∃ middle indexed,
    Reaches viewedConnection [logoutColumnText] (viewedGrown [] middle) ∧
      Completes viewedConnection [timedTarget "login", timedTarget "logout"]
        [logoutColumnText, createIndexText (timedTarget "logout")]
        (viewedGrown [(timedTarget "logout").index] indexed) := by
  obtain ⟨middle, added⟩ := reaches_logoutColumn
  obtain ⟨indexed, made⟩ := reaches_logoutIndex middle
  have shown : viewedConnection.database.columnNames "login" = .ok ["time", "created_at"] := by
    decide +kernel
  have viewed : viewedConnection.columns "login" = .ok ["time", "created_at"] := by
    rw [Connection.columns_eq viewedConnection ⟨rfl, rfl⟩ "login" isName_login, shown, mapError_ok]
  have table : viewedConnection.columns "logout" = .ok ["time"] :=
    (Connection.columns_eq viewedConnection ⟨rfl, rfl⟩ "logout" isName_logout).trans rfl
  have first : Brings viewedConnection (timedTarget "login") [] viewedConnection := by
    have plan : columnPlan ["time", "created_at"] (timedTarget "login") = [] := by rfl
    have found : viewedConnection.hasIndex (indexName (timedTarget "login")) = .ok true := by rfl
    refine (brings_iff _ _ _ _).mpr ⟨["time", "created_at"], viewedConnection, [], viewed, ?_,
      .inl ⟨found, rfl, rfl⟩, ?_⟩
    · rw [plan]
      exact (reaches_nil _ _).mpr rfl
    · rw [plan, List.nil_append]
  have second : Brings viewedConnection (timedTarget "logout")
      [logoutColumnText, createIndexText (timedTarget "logout")]
      (viewedGrown [(timedTarget "logout").index] indexed) := by
    have plan : columnPlan ["time"] (timedTarget "logout") = [logoutColumnText] := by rfl
    have absent : (viewedGrown [] middle).hasIndex (indexName (timedTarget "logout")) = .ok false := by
      rfl
    refine (brings_iff _ _ _ _).mpr ⟨["time"], viewedGrown [] middle,
      [createIndexText (timedTarget "logout")], table, ?_, .inr ⟨absent, rfl, made⟩, ?_⟩
    · rw [plan]
      exact added
    · rw [plan, List.singleton_append]
  refine ⟨middle, indexed, added, (completes_cons _ _ _ _ _).mpr ⟨[], _, _, first, ?_, rfl⟩⟩
  exact (completes_cons _ _ _ _ _).mpr ⟨_, _, [], second, (completes_nil _ _ _).mpr ⟨rfl, rfl⟩, rfl⟩

def leavingSchema : RawSchema := timedSchema ["login", "logout"]

theorem accepts_leavingSchema : Validation.Accepts leavingSchema :=
  accepts_timedSchema _ (by simp [Identifier.isUsable_login, Identifier.isUsable_logout]) (by decide)
    (by decide)

theorem leavingSchema_loads : ∃ compiled, compileRaw leavingSchema none = .ok compiled ∧
    (EventModule.ofCompiled compiled).Loads bareSession "events.py" "events.py" ∧
    ∀ connection, migrate connection (EventModule.ofCompiled compiled) =
      migrateAll connection [timedTarget "login", timedTarget "logout"] := by
  have made := compileRaw_eq leavingSchema none
    ((Validation.errors_eq_nil_iff _).mpr accepts_leavingSchema)
  have loads := loads_timedSchema ["login", "logout"] (by decide) (by simp) accepts_leavingSchema
    bareSession "events.py" "events.py"
  have targets := targets_timedSchema ["login", "logout"] (by decide) accepts_leavingSchema
  exact ⟨_, made, loads, fun connection => congrArg (migrateAll connection) targets⟩

/-- A migration that succeeds fails when it is made again, if an event has the name of a view that
shows the table of another one. -/
theorem leavingSchema_not_idempotent : ∃ compiled after,
    compileRaw leavingSchema none = .ok compiled ∧
      (EventModule.ofCompiled compiled).Loads bareSession "events.py" "events.py" ∧
      migrate viewedConnection (EventModule.ofCompiled compiled) =
        { error := none, applied := [logoutColumnText, createIndexText (timedTarget "logout")],
          connection := after } ∧
      (migrate after (EventModule.ofCompiled compiled)).error ≠ none := by
  obtain ⟨compiled, made, loads, migrates⟩ := leavingSchema_loads
  obtain ⟨middle, indexed, _, completes⟩ := viewedConnection_completes
  refine ⟨compiled, _, made, loads, (migrates _).trans completes, ?_⟩
  rw [migrates]
  exact migrateAll_viewedGrown _ _ _

/-- Behind the first of its statements the migration cannot go on. -/
theorem leavingSchema_not_resumed : ∃ compiled middle after,
    compileRaw leavingSchema none = .ok compiled ∧
      (EventModule.ofCompiled compiled).Loads bareSession "events.py" "events.py" ∧
      migrate viewedConnection (EventModule.ofCompiled compiled) =
        { error := none, applied := [logoutColumnText, createIndexText (timedTarget "logout")],
          connection := after } ∧
      applyAll viewedConnection [logoutColumnText] =
        { stopped := none, applied := [logoutColumnText], connection := middle } ∧
      (migrate middle (EventModule.ofCompiled compiled)).error ≠ none := by
  obtain ⟨compiled, made, loads, migrates⟩ := leavingSchema_loads
  obtain ⟨middle, indexed, added, completes⟩ := viewedConnection_completes
  refine ⟨compiled, _, _, made, loads, (migrates _).trans completes, added, ?_⟩
  rw [migrates]
  exact migrateAll_viewedGrown _ _ _

end Migration

end EventForge
