import EventForge.Proofs.Store.MigrationResume
import EventForge.Proofs.Store.StoredEvents

/-!
# Schemas that change

A migration keeps a plain database plain and leaves what its rows hold.  Hence what one module stored
is retrieved by another one that was migrated on it: each value under its column, wrapped to its new
width, and zero under columns that were not there.
-/

namespace EventForge

open Outcome Compilation

/-- The rows of a table hold what they held when the database grows. -/
theorem Database.Has.grows {database new : Database} (plain : database.IsPlain)
    (grows : database.Grows new) {name : Text} {names : List Text} {contents : List (Text → Cell)}
    (has : database.Has name names contents) : new.Has name names contents := by
  obtain ⟨table, tableAt, known, rfl⟩ := has
  obtain ⟨grown, grownAt, added, growsBy⟩ := grows.tables name table tableAt
  refine ⟨grown, grownAt, fun column member => ?_, growsBy.contents (plain.table tableAt)⟩
  have columns : grown.columns = table.columns ++ added := congrArg SqlTable.columns growsBy.same
  have own := known column member
  rw [SqlTable.column?] at own
  rw [SqlTable.column?, columns, List.find?_append, Option.isSome_or, own, Bool.true_or]

namespace Migration

open Event

/-- Each statement of a migration keeps a plain database plain. -/
theorem isPlain_execute {connection after : Connection} {target : Target} (proper : target.IsProper)
    {text : Text} (own : IsStatementOf target text) (plain : connection.database.IsPlain)
    {rows : List (List Document)} (executed : connection.execute text [] = .ok (rows, after)) :
    after.database.IsPlain := by
  cases own with
  | table =>
      rw [createTableText_eq] at executed
      obtain ⟨bound, performed, made, same⟩ :=
        Connection.exists_perform (ofText_createTable target proper.toIsNamed) executed
      obtain ⟨new, created, made⟩ := (bind_eq_ok_iff _ _ _).mp made
      obtain rfl := Except.ok.inj made
      have newPlain := plain.createTable target.table target.columns proper.table.usable
        proper.inhabited
        (fun column listed => ⟨proper.columns column listed, proper.types column listed⟩)
        proper.distinct created
      exact newPlain.of_sameContent same
  | index =>
      rw [createIndexText_eq] at executed
      obtain ⟨bound, performed, made, same⟩ :=
        Connection.exists_perform (ofText_createIndex target proper.toIsNamed.isUsable) executed
      obtain ⟨new, created, made⟩ := (bind_eq_ok_iff _ _ _).mp made
      obtain rfl := Except.ok.inj made
      have newPlain := plain.createIndex rfl created
      exact newPlain.of_sameContent same
  | @column column listed =>
      have known : IsIntegerColumn column := ⟨proper.columns _ listed, proper.types _ listed⟩
      rw [addColumnText_eq] at executed
      obtain ⟨bound, performed, made, same⟩ := Connection.exists_perform
        (ofText_addColumn target.table column proper.table known.named known.type) executed
      obtain ⟨new, added, made⟩ := (bind_eq_ok_iff _ _ _).mp made
      obtain rfl := Except.ok.inj made
      have added : connection.database.addColumn (SqlReader.plainObject target.table)
        [.column column.1 column.2] none false = .ok new := added
      have newPlain := plain.addColumn known added
      exact newPlain.of_sameContent same

theorem Reaches.isPlain {connection after : Connection} {targets : List Target}
    (proper : AreProper targets) {texts : List Text} (reaches : Reaches connection texts after)
    (each : ∀ text ∈ texts, ∃ target ∈ targets, IsStatementOf target text)
    (plain : connection.database.IsPlain) : after.database.IsPlain := by
  induction texts generalizing connection with
  | nil => rwa [(reaches_nil _ _).mp reaches]
  | cons text texts ih =>
      obtain ⟨rows, middle, executed, rest⟩ := (reaches_cons _ _ _ _).mp reaches
      obtain ⟨target, listed, own⟩ := each text (by simp)
      exact ih rest (fun other member => each other (by simp [member]))
        (isPlain_execute (proper target listed).1 own plain executed)

theorem hasColumns_of_isPlain {database : Database} (plain : database.IsPlain) :
    HasColumns database := by
  intro name table found
  have tablePlain := plain.table found
  rw [table.givenColumns_of_given fun column member => tablePlain.generated member]
  exact tablePlain.inhabited

/-- The columns of a plain table are found by their folded names. -/
theorem isSome_column?_iff {table : SqlTable} (plain : table.IsPlain) (name : Text) (named : IsName name) :
    (table.column? name).isSome = true ↔ name.fold ∈ (givenNames table).map Text.fold := by
  have folds : ∀ column ∈ table.columns, column.name.fold = column.name.toAsciiLower := by
    intro column member
    obtain ⟨pair, rfl, known⟩ := plain.columns column member
    exact fold_of_isName known.named
  have given : table.givenColumns = table.columns :=
    table.givenColumns_of_given fun column member => plain.generated member
  rw [SqlTable.column?, List.find?_isSome, givenNames, given, fold_of_isName named]
  constructor
  · rintro ⟨column, member, alike⟩
    refine List.mem_map.mpr ⟨column.name, List.mem_map_of_mem member, ?_⟩
    rw [folds column member]
    exact (sameName_iff _ _).mp alike
  · intro listed
    obtain ⟨other, otherListed, same⟩ := List.mem_map.mp listed
    obtain ⟨column, member, rfl⟩ := List.mem_map.mp otherListed
    rw [folds column member] at same
    exact ⟨column, member, (sameName_iff _ _).mpr same⟩

/-- A target whose table and columns are some of those of another one is up to date with it. -/
theorem UpToDate.of_sameName {database : Database} {first second : Target}
    (upToDate : UpToDate database first) (firstProper : first.IsProper) (secondProper : second.IsProper)
    (alike : sameName first.table second.table = true) (timed : first.timeColumn = second.timeColumn)
    (columns : ∀ column ∈ second.columns, ∃ other ∈ first.columns, sameName other.1 column.1 = true) :
    UpToDate database second := by
  have lowered := (sameName_iff _ _).mp alike
  constructor
  · obtain ⟨table, found, every⟩ := upToDate.table
    rw [Database.table?_congr _ alike] at found
    refine ⟨table, found, fun column member => ?_⟩
    obtain ⟨other, listed, same⟩ := columns column member
    have own := every other listed
    rwa [fold_of_isName (firstProper.columns other listed), (sameName_iff _ _).mp same,
      ← fold_of_isName (secondProper.columns column member)] at own
  · have names : (indexName first).toAsciiLower = (indexName second).toAsciiLower := by
      rw [indexName_eq, indexName_eq, timed]
      simp only [Text.toAsciiLower_append, lowered]
    have index := upToDate.index
    simp only [Database.index?, sameName, names] at index
    simpa only [Database.index?, sameName] using index

end Migration

namespace Event

/-- The value of an event under a column, whose name may be in another case. -/
def under (event : Event) (name : Text) : Option Document :=
  (event.eventClass.columns.findIdx? (sameName name)).bind fun position => event.values[position]?

/-- An event read as one of another class: each value under its column, wrapped to the width that
the other class gives it, and zero under the other columns. -/
def readAs (eventClass : EventClass) (event : Event) : Event where
  eventClass
  values := (eventClass.retrieved.zip eventClass.columns).map fun entry =>
    match event.under entry.2 with
    | some (.integer value) => .integer (value.bmod (twoTo entry.1.width))
    | _ => .integer 0

theorem ofCells_readAs (event : Event) (fits : event.Fits) (eventClass : EventClass)
    (sound : eventClass.IsSound) :
    ofCells eventClass (eventClass.columns.map event.read) = event.readAs eventClass := by
  obtain ⟨integers, values, _⟩ := exists_integers _ _ fits.count fits.integers
  rw [ofCells, readAs, List.zip_map_right, List.map_map]
  congr 1
  refine List.map_congr_left fun entry member => ?_
  have positive : 0 < entry.1.width := by
    rcases sound.widths entry.1 (List.of_mem_zip member).1 with same | same <;> omega
  simp only [Function.comp_apply, Prod.map_fst, Prod.map_snd, read, SqlTable.givenValue, under, cells,
    values]
  cases event.eventClass.columns.findIdx? (sameName entry.2) with
  | none => rfl
  | some position =>
      simp only [Option.bind_some, List.getElem?_map]
      cases integers[position]? with
      | none => rfl
      | some value => exact congrArg Document.integer (Codec.wrap_eq_bmod value entry.1.width positive)

end Event

namespace Migration

open Event

theorem timeColumn_moduleOf (schema : RawSchema) (sourcePath : Option Text)
    (accepted : Validation.Accepts schema) :
    ∀ eventClass ∈ (moduleOf schema sourcePath).classes, eventClass.timeColumn = timeName := by
  intro eventClass member
  obtain ⟨event, eventMember, rfl⟩ := (mem_classes_moduleOf schema sourcePath _).mp member
  exact timeColumn_entityOf event (accepted.events event eventMember)

section Migrated

variable (schema : RawSchema) (sourcePath : Option Text) (accepted : Validation.Accepts schema)
  (plainNames : schema.HasPlainNames) {classes : List EventClass} {connection : Connection}
  {events : List Event}
  (succeeds : (migrate connection (moduleOf schema sourcePath)).error = none)

include accepted plainNames succeeds

/-- A migration of a plain database adds to it, and leaves tables with the columns of the module. -/
theorem grows_migrated (ready : connection.IsReady) (plain : connection.database.IsPlain) :
    (migrate connection (moduleOf schema sourcePath)).connection.IsReady ∧
    (migrate connection (moduleOf schema sourcePath)).connection.database.IsPlain ∧
    connection.database.Grows (migrate connection (moduleOf schema sourcePath)).connection.database ∧
    ∀ eventClass ∈ (moduleOf schema sourcePath).classes, ∃ table,
      (migrate connection (moduleOf schema sourcePath)).connection.database.table?
          eventClass.table = some table ∧
        ∀ name ∈ eventClass.columns, (table.column? name).isSome = true := by
  let targets := (moduleOf schema sourcePath).classes.map Target.ofClass
  have proper : AreProper targets := areProper_moduleOf schema sourcePath accepted plainNames
  have completes : Completes connection targets _ _ := completes_migrateAll connection targets succeeds
  have suits : Suits connection targets := by
    refine ⟨ready, hasColumns_of_isPlain plain, fun target _ => ?_⟩
    rw [Database.view?, plain.views]
    rfl
  have grows := completes.reaches.grows (isAddition_completes proper completes)
  have plainAfter := completes.reaches.isPlain proper (isStatementOf_completes completes) plain
  have upToDate := upToDate_completes proper suits completes
  refine ⟨completes.reaches.isReady ready, plainAfter, grows, ?_⟩
  intro eventClass listed
  have sound := (areStorable_moduleOf schema sourcePath accepted plainNames).sound _ listed
  obtain ⟨found, foundAt, every⟩ := (upToDate _ (List.mem_map_of_mem listed)).table
  refine ⟨found, foundAt, fun name member => ?_⟩
  refine (isSome_column?_iff (plainAfter.table foundAt) name (sound.columns _ member)).mpr ?_
  obtain ⟨event, _, rfl⟩ := (mem_classes_moduleOf schema sourcePath _).mp listed
  rw [columns_classOf] at member
  obtain ⟨column, columnMember, rfl⟩ := List.mem_map.mp member
  exact every column columnMember

variable (stored : AreStored connection classes events)

include stored

/-- What is stored is still there, under the columns of the module that is migrated on it. -/
theorem holds_migrated : (migrate connection (moduleOf schema sourcePath)).connection.IsReady ∧
    (migrate connection (moduleOf schema sourcePath)).connection.database.IsPlain ∧
    ∀ oldClass ∈ classes, ∀ newClass ∈ (moduleOf schema sourcePath).classes,
      sameName oldClass.table newClass.table = true →
        (migrate connection (moduleOf schema sourcePath)).connection.database.Has newClass.table
          newClass.columns ((events.filter fun event => event.eventClass = oldClass).map Event.read) := by
  obtain ⟨ready, plain, grows, tables⟩ :=
    grows_migrated schema sourcePath accepted plainNames succeeds stored.ready stored.plain
  refine ⟨ready, plain, fun oldClass oldListed newClass newListed alike => ?_⟩
  obtain ⟨table, tableAt, _, contents⟩ := (stored.tables _ oldListed).grows stored.plain grows
  obtain ⟨found, foundAt, known⟩ := tables newClass newListed
  rw [Database.table?_congr _ alike] at tableAt
  obtain rfl := Option.some.inj (tableAt.symm.trans foundAt)
  exact ⟨table, tableAt, known, contents⟩

/-- What is stored is read by the class of another module that is migrated on it. -/
theorem retrieve_migrated (storable : AreStorable classes)
    (timed : ∀ eventClass ∈ classes, eventClass.timeColumn = timeName)
    (each : ∀ event ∈ events, event.eventClass ∈ classes ∧ event.Fits) :
    ∀ oldClass ∈ classes, ∀ newClass ∈ (moduleOf schema sourcePath).classes,
      sameName oldClass.table newClass.table = true → ∀ low high : Int,
        Cell.inRange low = true → Cell.inRange high = true →
          ∃ found, Event.retrieve newClass (migrate connection (moduleOf schema sourcePath)).connection
              (.integer low) (.integer high) = .ok found ∧
            found.Perm ((events.filter fun event =>
              event.eventClass = oldClass && event.isWithin low high).map (readAs newClass)) := by
  obtain ⟨ready, plain, holds⟩ := holds_migrated schema sourcePath accepted plainNames succeeds stored
  intro oldClass oldListed newClass newListed alike low high lowFits highFits
  have sound := (areStorable_moduleOf schema sourcePath accepted plainNames).sound _ newListed
  obtain ⟨found, retrieved, chosen⟩ := retrieve_eq ready plain newClass sound
    (holds oldClass oldListed newClass newListed alike) low high lowFits highFits
  have time : newClass.timeColumn = oldClass.timeColumn :=
    (timeColumn_moduleOf schema sourcePath accepted _ newListed).trans (timed _ oldListed).symm
  refine ⟨found, retrieved, chosen.trans (.of_eq ?_)⟩
  rw [time, filter_map_read storable events each oldClass oldListed low high, List.map_map]
  refine List.map_congr_left fun event member => ?_
  exact event.ofCells_readAs (each event (List.mem_filter.mp member).1).2 newClass sound

end Migrated

/-- Storing leaves the tables up to date. -/
theorem upToDate_stored (schema : RawSchema) (sourcePath : Option Text)
    (accepted : Validation.Accepts schema) (plainNames : schema.HasPlainNames)
    (connection : Connection) (ready : connection.IsReady)
    (empty : Holds connection.database [] fun _ => [])
    (succeeds : (migrate connection (moduleOf schema sourcePath)).error = none) {stored : Connection}
    {events : List Event}
    (areStored : AreStored stored (moduleOf schema sourcePath).classes events)
    (indexes : stored.database.indexes =
      (migrate connection (moduleOf schema sourcePath)).connection.database.indexes) :
    ∀ target ∈ (moduleOf schema sourcePath).classes.map Target.ofClass,
      UpToDate stored.database target := by
  have proper := areProper_moduleOf schema sourcePath accepted plainNames
  have plain : connection.database.IsPlain := isPlain_of_empty empty
  have suits : Suits connection ((moduleOf schema sourcePath).classes.map Target.ofClass) := by
    refine ⟨ready, hasColumns_of_isPlain plain, fun target _ => ?_⟩
    rw [Database.view?, plain.views]
    rfl
  have migrated := upToDate_completes proper suits (completes_migrateAll _ _ succeeds)
  intro target member
  obtain ⟨eventClass, listed, rfl⟩ := List.mem_map.mp member
  constructor
  · obtain ⟨table, tableAt, known, _⟩ := areStored.tables eventClass listed
    refine ⟨table, tableAt, fun column columnMember => ?_⟩
    obtain ⟨event, _, rfl⟩ := (mem_classes_moduleOf schema sourcePath _).mp listed
    have named := (proper _ member).1.columns column columnMember
    refine (isSome_column?_iff (areStored.plain.table tableAt) column.1 named).mp (known _ ?_)
    rw [columns_classOf]
    exact List.mem_map_of_mem columnMember
  · have index := (migrated _ member).index
    rw [Database.index?, indexes]
    exact index

/-- What one module stored in a database that it migrated from an empty one is retrieved by another
module that is migrated on it: each event whose time lies in the range once, with the value under each
column of the new class, wrapped to its width, and zero under the columns that were not there. -/
theorem retrieve_survives_evolution (old new : RawSchema) (oldPath newPath : Option Text)
    (oldCompiled newCompiled : CompiledSchema) (oldMade : compileRaw old oldPath = .ok oldCompiled)
    (newMade : compileRaw new newPath = .ok newCompiled) (oldSession newSession : ScriptState)
    (oldReference newReference oldFile newFile : Text)
    (oldLoads : (EventModule.ofCompiled oldCompiled).Loads oldSession oldReference oldFile)
    (newLoads : (EventModule.ofCompiled newCompiled).Loads newSession newReference newFile)
    (connection : Connection) (ready : connection.IsReady)
    (empty : Holds connection.database [] fun _ => [])
    (succeeds : (migrate connection (EventModule.ofCompiled oldCompiled)).error = none)
    (events : List Event)
    (each : ∀ event ∈ events,
      event.eventClass ∈ (EventModule.ofCompiled oldCompiled).classes ∧ event.Fits) :
    ∃ stored : Connection, events.foldlM (fun connection event => event.store connection)
        (migrate connection (EventModule.ofCompiled oldCompiled)).connection = .ok stored ∧
      ((migrate stored (EventModule.ofCompiled newCompiled)).error = none →
        ∀ oldClass ∈ (EventModule.ofCompiled oldCompiled).classes,
          ∀ newClass ∈ (EventModule.ofCompiled newCompiled).classes,
            sameName oldClass.table newClass.table = true → ∀ low high : Int,
              Cell.inRange low = true → Cell.inRange high = true →
                ∃ found, Event.retrieve newClass
                    (migrate stored (EventModule.ofCompiled newCompiled)).connection
                    (.integer low) (.integer high) = .ok found ∧
                  found.Perm ((events.filter fun event =>
                    event.eventClass = oldClass && event.isWithin low high).map (readAs newClass))) := by
  obtain ⟨oldAccepted, rfl⟩ := of_compileRaw old oldPath oldCompiled oldMade
  obtain ⟨newAccepted, rfl⟩ := of_compileRaw new newPath newCompiled newMade
  have oldPlain := hasPlainNames_of_loads old oldPath oldAccepted _ _ _ oldLoads
  have newPlain := hasPlainNames_of_loads new newPath newAccepted _ _ _ newLoads
  have storable := areStorable_moduleOf old oldPath oldAccepted oldPlain
  have start := areStored_migrate old oldPath oldAccepted oldPlain connection ready empty succeeds
  obtain ⟨stored, run, whole, _⟩ := start.storeAll storable events each
  rw [List.nil_append] at whole
  refine ⟨stored, run, fun migrated => ?_⟩
  exact retrieve_migrated new newPath newAccepted newPlain migrated whole storable
    (timeColumn_moduleOf old oldPath oldAccepted) each

/-- An event whose time is an integer of 32 bits. -/
def narrowEvent : RawEvent :=
  { name := "login", typeLabel := [], typeMapping := [("time", .text "int")] }

def narrowSchema : RawSchema := { events := [narrowEvent], path := none }

theorem accepts_narrowSchema : Validation.Accepts narrowSchema where
  events event member := by
    obtain rfl := List.mem_singleton.mp member
    exact Validation.acceptsEvent_alone _ (.text "int") rfl Identifier.isUsable_login rfl
  classesDistinct := List.nodup_singleton _
  tablesDistinct := List.nodup_singleton _

theorem loads_narrowSchema (session : ScriptState) (reference path : Text) :
    (moduleOf narrowSchema none).Loads session reference path := by
  have loadable : narrowSchema.IsLoadable none := by
    apply isLoadable_alone _ rfl <;> intro event member <;> obtain rfl := List.mem_singleton.mp member
    · exact ⟨rfl, _, rfl⟩
    · decide
  obtain ⟨encoded, loads⟩ := ofContent_moduleOf narrowSchema none accepts_narrowSchema
    (List.cons_ne_nil _ _) loadable session reference path
  exact ⟨_, _, _, encoded, loads⟩

theorem target_narrowEvent : Target.ofClass (classOf narrowEvent) =
    { timedTarget "login" with columns := [("time", "INTEGER"), ("created_at", "BIGINT")] } := by
  rw [ofClass_classOf _ (accepts_narrowSchema.events _ (List.mem_singleton.mpr rfl)),
    columnDefinitions_alone _ (.text "int") rfl]
  rfl

theorem retrieved_narrowEvent : (classOf narrowEvent).retrieved =
    [{ name := "time", width := 32 }, { name := "created_at", width := 64 }] :=
  retrieved_alone _ (.text "int") rfl

/-- A time of more than 32 bits is wrapped. -/
theorem readAs_narrowEvent : (loginAt 5000000000).readAs (classOf narrowEvent) =
    { eventClass := classOf narrowEvent, values := [.integer 705032704, .integer 9] } := by
  have columns : (classOf narrowEvent).columns = [timeName, Entity.creationColumn] :=
    columns_alone _ (.text "int") rfl
  have stored : (classOf (timedEvent "login")).columns = [timeName, Entity.creationColumn] :=
    columns_alone _ (.text "timestamp") rfl
  rw [readAs, columns, retrieved_narrowEvent]
  simp only [Event.under, loginAt, stored]
  rfl

/-- A database with an event whose time does not fit the narrower class that replaces its own. -/
theorem loginSchema_narrowed : ∃ old new stored,
    compileRaw loginSchema none = .ok old ∧
      (EventModule.ofCompiled old).Loads bareSession "events.py" "events.py" ∧
      compileRaw narrowSchema none = .ok new ∧
      (EventModule.ofCompiled new).Loads bareSession "events.py" "events.py" ∧
      classOf (timedEvent "login") ∈ (EventModule.ofCompiled old).classes ∧
      classOf narrowEvent ∈ (EventModule.ofCompiled new).classes ∧
      emptyConnection.IsReady ∧ Holds emptyConnection.database [] (fun _ => []) ∧
      (migrate emptyConnection (EventModule.ofCompiled old)).error = none ∧
      [loginAt 5000000000].foldlM (fun connection event => event.store connection)
        (migrate emptyConnection (EventModule.ofCompiled old)).connection = .ok stored ∧
      AreStored stored (EventModule.ofCompiled old).classes [loginAt 5000000000] ∧
      (migrate stored (EventModule.ofCompiled new)).error = none := by
  obtain ⟨made, loads⟩ := compiles_loginSchema
  have accepted := accepts_loginSchema
  have ready : emptyConnection.IsReady := ⟨rfl, rfl⟩
  have empty : Holds emptyConnection.database [] fun _ => [] := holds_empty _
  have succeeds := migrates_loginSchema
  have listed := mem_classes_loginSchema
  have newMade := compileRaw_eq narrowSchema none
    ((Validation.errors_eq_nil_iff _).mpr accepts_narrowSchema)
  have newLoads := loads_narrowSchema bareSession "events.py" "events.py"
  have plain := hasPlainNames_of_loads _ none accepted _ _ _ loads
  have newPlain := hasPlainNames_of_loads _ none accepts_narrowSchema _ _ _ newLoads
  have start := areStored_migrate loginSchema none accepted plain emptyConnection ready empty succeeds
  have newListed : classOf narrowEvent ∈ (moduleOf narrowSchema none).classes :=
    (mem_classes_moduleOf narrowSchema none _).mpr ⟨_, List.mem_singleton.mpr rfl, rfl⟩
  obtain ⟨stored, run, whole, indexes⟩ := start.storeAll
    (areStorable_moduleOf loginSchema none accepted plain) [loginAt 5000000000] (by
      intro event member
      obtain rfl := List.mem_singleton.mp member
      exact ⟨listed, fits_loginAt 5000000000 ⟨by decide, by decide⟩⟩)
  have upToDate := upToDate_stored loginSchema none accepted plain emptyConnection ready empty succeeds
    whole indexes (Target.ofClass (classOf (timedEvent "login"))) (List.mem_map_of_mem listed)
  rw [ofClass_timedEvent "login" Identifier.isUsable_login] at upToDate
  have newProper := areProper_moduleOf narrowSchema none accepts_narrowSchema newPlain
  have newUpToDate : ∀ target ∈ (moduleOf narrowSchema none).classes.map Target.ofClass,
      UpToDate stored.database target := by
    intro target member
    have proper := (newProper target member).1
    obtain ⟨eventClass, classMember, rfl⟩ := List.mem_map.mp member
    obtain ⟨event, eventMember, rfl⟩ := (mem_classes_moduleOf narrowSchema none _).mp classMember
    obtain rfl := List.mem_singleton.mp eventMember
    rw [target_narrowEvent] at proper ⊢
    refine upToDate.of_sameName (isProper_timedTarget "login" isName_login) proper (sameName_self _) rfl ?_
    decide
  have done := completes_upToDate whole.ready newProper newUpToDate
  refine ⟨_, _, stored, made, loads, newMade, newLoads, listed, newListed, ready,
    empty, succeeds, run, whole, ?_⟩
  exact congrArg Outcome.error done

theorem loginSchema_survives_evolution : ∃ old new stored found,
    compileRaw loginSchema none = .ok old ∧ compileRaw narrowSchema none = .ok new ∧
      [loginAt 5000000000].foldlM (fun connection event => event.store connection)
        (migrate emptyConnection (EventModule.ofCompiled old)).connection = .ok stored ∧
      (migrate stored (EventModule.ofCompiled new)).error = none ∧
      Event.retrieve (classOf narrowEvent) (migrate stored (EventModule.ofCompiled new)).connection
        (.integer 0) (.integer 9000000000) = .ok found ∧
      found = [{ eventClass := classOf narrowEvent, values := [.integer 705032704, .integer 9] }] := by
  obtain ⟨old, new, stored, made, loads, newMade, newLoads, listed, newListed, ready, empty,
    succeeds, run, whole, migrated⟩ := loginSchema_narrowed
  obtain ⟨other, otherRun, retrieves⟩ := retrieve_survives_evolution loginSchema narrowSchema none none
    old new made newMade bareSession bareSession "events.py" "events.py" "events.py" "events.py" loads
    newLoads emptyConnection ready empty succeeds [loginAt 5000000000] (by
      intro event member
      obtain rfl := List.mem_singleton.mp member
      exact ⟨listed, fits_loginAt 5000000000 ⟨by decide, by decide⟩⟩)
  obtain rfl := Except.ok.inj (otherRun.symm.trans run)
  obtain ⟨found, retrieved, chosen⟩ := retrieves migrated _ listed _ newListed (sameName_self _) 0
    9000000000 (by decide) (by decide)
  have own : ([loginAt 5000000000].filter fun event => decide (event.eventClass =
      classOf (timedEvent "login")) && event.isWithin 0 9000000000) = [loginAt 5000000000] := by
    rw [List.filter_eq_self]
    intro event member
    obtain rfl := List.mem_singleton.mp member
    have login : (loginAt 5000000000).eventClass = classOf (timedEvent "login") := rfl
    rw [isWithin_loginAt, decide_eq_true login]
    rfl
  rw [own, List.map_singleton, readAs_narrowEvent] at chosen
  exact ⟨old, new, other, found, made, newMade, run, migrated, retrieved, List.perm_singleton.mp chosen⟩

/-- A bound of more than 64 bits is refused, also if an event lies within the bounds. -/
theorem loginSchema_refuses_wide_bounds : ∃ old new stored,
    compileRaw loginSchema none = .ok old ∧ compileRaw narrowSchema none = .ok new ∧
      [loginAt 5000000000].foldlM (fun connection event => event.store connection)
        (migrate emptyConnection (EventModule.ofCompiled old)).connection = .ok stored ∧
      (migrate stored (EventModule.ofCompiled new)).error = none ∧
      (loginAt 5000000000).isWithin (-9223372036854775809) 9000000000 = true ∧
      Event.retrieve (classOf narrowEvent) (migrate stored (EventModule.ofCompiled new)).connection
        (.integer (-9223372036854775809)) (.integer 9000000000) =
          .error (.escaped SqlFault.integerRange.fault) := by
  obtain ⟨old, new, stored, made, loads, newMade, newLoads, listed, newListed, ready, empty,
    succeeds, run, whole, migrated⟩ := loginSchema_narrowed
  obtain ⟨accepted, rfl⟩ := of_compileRaw narrowSchema none new newMade
  have plainNames := hasPlainNames_of_loads _ none accepted _ _ _ newLoads
  obtain ⟨migratedReady, plain, holds⟩ := holds_migrated narrowSchema none accepted plainNames
    migrated whole
  have sound := (areStorable_moduleOf narrowSchema none accepted plainNames).sound _ newListed
  have has := holds _ listed _ newListed (sameName_self _)
  refine ⟨old, _, stored, made, newMade, run, migrated, ?_, ?_⟩
  · rw [isWithin_loginAt]
    rfl
  · exact retrieve_beyond migratedReady plain _ sound has _ _ (by decide)

end Migration

end EventForge
