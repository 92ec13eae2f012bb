import EventForge.Proofs.Store.EmptyDatabase
import EventForge.Proofs.Store.EventRow

/-!
# Stored events

The classes of a module that is migrated from an empty database have a table each.  What was stored
in any order comes back from each of them: its own events, each as often as it was stored.
-/

namespace EventForge

open Outcome Compilation

namespace Event

/-- Whether an integer is one of a width, with a sign. -/
def IsOfWidth (value : Int) (width : Nat) : Prop :=
  -(twoTo (width - 1) : Int) ≤ value ∧ value < (twoTo (width - 1) : Int)

/-- Whether an event has an integer within the width of its field for every attribute. -/
structure Fits (event : Event) : Prop where
  count : event.values.length = event.eventClass.retrieved.length
  integers : ∀ entry ∈ event.eventClass.retrieved.zip event.values,
    ∃ value, entry.2 = .integer value ∧ IsOfWidth value entry.1.width

/-- Whether the time of an event lies between two bounds, both included. -/
def isWithin (event : Event) (low high : Int) : Bool :=
  match event.value event.eventClass.timeColumn with
  | .integer time => low ≤ time && time ≤ high
  | _ => false

/-- The integers that some values are, each within the width of its field. -/
theorem exists_integers (decodings : List Decoding) (values : List Document)
    (count : values.length = decodings.length)
    (each : ∀ entry ∈ decodings.zip values,
      ∃ value, entry.2 = .integer value ∧ IsOfWidth value entry.1.width) :
    ∃ integers : List Int, values = integers.map Document.integer ∧
      ∀ entry ∈ decodings.zip integers, IsOfWidth entry.2 entry.1.width := by
  induction decodings generalizing values with
  | nil => exact ⟨[], List.length_eq_zero_iff.mp count, by simp⟩
  | cons decoding decodings ih =>
      cases values with
      | nil => cases count
      | cons value values =>
          obtain ⟨integers, rfl, others⟩ := ih values (by simpa using count)
            fun entry member => each entry (by simp [member])
          obtain ⟨integer, own, fits⟩ := each (decoding, value) (by simp)
          obtain rfl : value = .integer integer := own
          refine ⟨integer :: integers, rfl, ?_⟩
          intro entry member
          rcases List.mem_cons.mp member with rfl | later
          · exact fits
          · exact others entry later

/-- The cells that an event is stored as. -/
def cells (event : Event) : List Cell :=
  event.values.map fun value =>
    match value with
    | .integer value => .integer value
    | _ => .null

/-- What the row of an event holds under names. -/
def read (event : Event) : Text → Cell := SqlTable.givenValue event.eventClass.columns event.cells

/-- A row holds what is given for its names, in their order. -/
theorem givenValue_at (names : List Text) (distinct : (names.map Text.toAsciiLower).Nodup)
    (cells : List Cell) (position : Nat) (name : Text) (nameAt : names[position]? = some name) :
    SqlTable.givenValue names cells name = (cells[position]?).getD .null := by
  have index : names.findIdx? (sameName name) = some position := by
    obtain ⟨inside, own⟩ := List.getElem?_eq_some_iff.mp nameAt
    rw [List.findIdx?_eq_some_iff_getElem]
    refine ⟨inside, by rw [own]; exact sameName_self name, ?_⟩
    intro earlier before alike
    rw [sameName_iff] at alike
    have first : (names.map Text.toAsciiLower)[earlier]? = some name.toAsciiLower := by
      rw [List.getElem?_map, List.getElem?_eq_getElem (by omega), Option.map_some, alike]
    have second : (names.map Text.toAsciiLower)[position]? = some name.toAsciiLower := by
      rw [List.getElem?_map, nameAt, Option.map_some]
    have same := (List.getElem?_inj (by simp; omega) distinct).mp (first.trans second.symm)
    omega
  rw [SqlTable.givenValue, index, Option.bind_some]

theorem map_givenValue (names : List Text) (distinct : (names.map Text.toAsciiLower).Nodup)
    (cells : List Cell) (count : cells.length = names.length) :
    names.map (SqlTable.givenValue names cells) = cells := by
  refine List.ext_getElem? fun position => ?_
  rw [List.getElem?_map]
  cases nameAt : names[position]? with
  | none =>
      have outside := List.getElem?_eq_none_iff.mp nameAt
      rw [List.getElem?_eq_none (by omega)]
      rfl
  | some name =>
      obtain ⟨inside, _⟩ := List.getElem?_eq_some_iff.mp nameAt
      rw [Option.map_some, givenValue_at names distinct cells position name nameAt,
        List.getElem?_eq_getElem (by omega), Option.getD_some]

section Sound

variable (event : Event) (sound : event.eventClass.IsSound) (fits : event.Fits)

include sound fits

theorem length_values : event.values.length = event.eventClass.columns.length := by
  rw [fits.count, ← sound.count, ← sound.retrieved, List.length_map]

/-- A stored event comes back as it was. -/
theorem ofCells_read : ofCells event.eventClass (event.eventClass.columns.map event.read) = event := by
  obtain ⟨integers, values, widths⟩ := exists_integers _ _ fits.count fits.integers
  have count : integers.length = event.eventClass.retrieved.length := by
    rw [← fits.count, values, List.length_map]
  have cells : event.cells = integers.map Cell.integer := by
    rw [Event.cells, values, List.map_map]
    rfl
  have row : event.eventClass.columns.map event.read = integers.map Cell.integer := by
    rw [← cells]
    exact map_givenValue _ sound.distinct _ (by simp [Event.cells, event.length_values sound fits])
  have decoded : (event.eventClass.retrieved.zip (integers.map Cell.integer)).map
      (fun entry => Document.integer (Codec.wrapped entry.2 entry.1.width)) = event.values := by
    rw [List.zip_map_right, List.map_map, values]
    calc
      _ = (event.eventClass.retrieved.zip integers).map (fun entry => Document.integer entry.2) := by
        refine List.map_congr_left fun entry member => ?_
        have fitting := widths entry member
        have positive : 0 < entry.1.width := by
          rcases sound.widths entry.1 (List.of_mem_zip member).1 with same | same <;> omega
        exact congrArg Document.integer
          (Codec.wrap_eq_self entry.2 entry.1.width positive fitting.1 fitting.2)
      _ = ((event.eventClass.retrieved.zip integers).map Prod.snd).map Document.integer := by
        rw [List.map_map]
        rfl
      _ = integers.map Document.integer := by
        rw [List.map_snd_zip (Nat.le_of_eq count)]
  rw [row, ofCells, decoded]

/-- The time of a row is that of its event. -/
theorem read_isWithin (low high : Int) :
    decide (((event.read event.eventClass.timeColumn).liesBetween (.integer low)
      (.integer high)).truth? = some true) = event.isWithin low high := by
  obtain ⟨integers, values, _⟩ := exists_integers _ _ fits.count fits.integers
  have length := event.length_values sound fits
  obtain ⟨position, timed⟩ := List.mem_iff_getElem?.mp sound.timed
  obtain ⟨columnAt, attributeAt⟩ := List.getElem?_zip_eq_some.mp timed
  obtain ⟨inside, _⟩ := List.getElem?_eq_some_iff.mp columnAt
  have within : position < integers.length := by
    rw [values, List.length_map] at length
    omega
  have integerAt := List.getElem?_eq_getElem within
  have row : event.read event.eventClass.timeColumn = .integer integers[position] := by
    rw [read, givenValue_at _ sound.distinct _ position _ columnAt, Event.cells, values]
    simp [integerAt]
  have time : event.value event.eventClass.timeColumn = .integer integers[position] :=
    event.value_at sound length position attributeAt (by simp [values, integerAt])
  rw [row, isWithin, time, Bool.eq_iff_iff, decide_eq_true_eq, Cell.liesBetween_integers]
  simp

end Sound

theorem inRange_of_isOfWidth (value : Int) (width : Nat) (known : width = 32 ∨ width = 64)
    (fits : IsOfWidth value width) : Cell.inRange value = true := by
  have large : (twoTo 31 : Int) ≤ twoTo 63 := by decide
  obtain ⟨least, most⟩ := fits
  rw [Cell.inRange, Bool.and_eq_true, decide_eq_true_eq, decide_eq_true_eq]
  rcases known with rfl | rfl
  · simp only [Nat.reduceSub] at least most
    omega
  · simp only [Nat.reduceSub] at least most
    exact ⟨least, most⟩

/-- Whether the statements of classes fit their columns, and no two of them share a table. -/
structure AreStorable (classes : List EventClass) : Prop where
  sound : ∀ eventClass ∈ classes, eventClass.IsSound
  apart : ∀ first ∈ classes, ∀ second ∈ classes, first ≠ second →
    sameName first.table second.table = false

/-- Whether the tables of some classes hold some events and nothing else. -/
structure AreStored (connection : Connection) (classes : List EventClass) (events : List Event) :
    Prop where
  ready : connection.IsReady
  plain : connection.database.IsPlain
  tables : ∀ eventClass ∈ classes, connection.database.Has eventClass.table eventClass.columns
    ((events.filter fun event => event.eventClass = eventClass).map read)

section Run

variable {classes : List EventClass} (storable : AreStorable classes)

include storable

/-- Storing an event adds it to those that are stored. -/
theorem AreStored.store {connection : Connection} {events : List Event}
    (stored : AreStored connection classes events) (event : Event)
    (listed : event.eventClass ∈ classes) (fits : event.Fits) :
    ∃ after, event.store connection = .ok after ∧ AreStored after classes (events ++ [event]) ∧
      after.database.indexes = connection.database.indexes := by
  have sound := storable.sound _ listed
  have length := event.length_values sound fits
  obtain ⟨integers, values, widths⟩ := exists_integers _ _ fits.count fits.integers
  have count : integers.length = event.eventClass.columns.length := by
    rw [← length, values, List.length_map]
  have inRange : ∀ value ∈ integers, Cell.inRange value = true := by
    intro value member
    have paired : event.eventClass.retrieved.length = integers.length := by
      rw [← fits.count, values, List.length_map]
    obtain ⟨position, valueAt⟩ := List.mem_iff_getElem?.mp member
    obtain ⟨inside, _⟩ := List.getElem?_eq_some_iff.mp valueAt
    have decodingAt := List.getElem?_eq_getElem (show position < event.eventClass.retrieved.length by
      omega)
    have entry := List.mem_of_getElem? (List.getElem?_zip_eq_some.mpr ⟨decodingAt, valueAt⟩ :
      (event.eventClass.retrieved.zip integers)[position]? = some (_, value))
    exact inRange_of_isOfWidth value _ (sound.widths _ (List.mem_of_getElem? decodingAt))
      (widths _ entry)
  have cells : integers.map Cell.integer = event.cells := by
    rw [Event.cells, values, List.map_map]
    rfl
  obtain ⟨after, done, ready, plain, own, others, indexes⟩ := store_eq stored.ready stored.plain event sound
    (stored.tables _ listed) integers values count inRange
  refine ⟨after, done, ⟨ready, plain, fun eventClass member => ?_⟩, indexes⟩
  by_cases same : event.eventClass = eventClass
  · subst same
    rw [cells, show SqlTable.givenValue event.eventClass.columns event.cells = event.read from rfl]
      at own
    simpa [List.filter_append] using own
  · have kept := others _ _ _ (storable.apart _ listed _ member same) (stored.tables _ member)
    simpa [List.filter_append, same] using kept

/-- Events are stored one after the other, by induction on those that are left. -/
theorem AreStored.storeAll {connection : Connection} {done : List Event}
    (stored : AreStored connection classes done) (events : List Event)
    (each : ∀ event ∈ events, event.eventClass ∈ classes ∧ event.Fits) :
    ∃ after, events.foldlM (fun connection event => event.store connection) connection = .ok after ∧
      AreStored after classes (done ++ events) ∧
      after.database.indexes = connection.database.indexes := by
  induction events generalizing connection done with
  | nil => exact ⟨connection, rfl, by simpa using stored, rfl⟩
  | cons event events ih =>
      obtain ⟨listed, fits⟩ := each event (by simp)
      obtain ⟨middle, first, grown, lower⟩ := stored.store storable event listed fits
      obtain ⟨after, rest, whole, upper⟩ := ih grown fun other member => each other (by simp [member])
      refine ⟨after, ?_, by simpa using whole, upper.trans lower⟩
      rw [List.foldlM_cons, first, ok_bind, rest]

/-- The rows of a class whose time lies in a range are those of its events in the range. -/
theorem filter_map_read (events : List Event)
    (each : ∀ event ∈ events, event.eventClass ∈ classes ∧ event.Fits) (eventClass : EventClass)
    (listed : eventClass ∈ classes) (low high : Int) :
    ((events.filter fun event => event.eventClass = eventClass).map Event.read).filter (fun row =>
        ((row eventClass.timeColumn).liesBetween (.integer low) (.integer high)).truth? = some true) =
      (events.filter fun event => event.eventClass = eventClass && event.isWithin low high).map
        Event.read := by
  have sound := storable.sound _ listed
  rw [List.filter_map, List.filter_filter]
  congr 1
  refine List.filter_congr fun event member => ?_
  by_cases same : event.eventClass = eventClass
  · subst same
    have own := event.read_isWithin sound (each event member).2 low high
    simp only [Function.comp_apply, own, Bool.and_comm]
  · simp [same]

/-- What is retrieved are the stored events of the class with a time in the range. -/
theorem AreStored.retrieve {connection : Connection} {events : List Event}
    (stored : AreStored connection classes events)
    (each : ∀ event ∈ events, event.eventClass ∈ classes ∧ event.Fits) (eventClass : EventClass)
    (listed : eventClass ∈ classes) (low high : Int) (lowFits : Cell.inRange low = true)
    (highFits : Cell.inRange high = true) :
    ∃ found, Event.retrieve eventClass connection (.integer low) (.integer high) = .ok found ∧
      found.Perm (events.filter fun event =>
        event.eventClass = eventClass && event.isWithin low high) := by
  have sound := storable.sound _ listed
  obtain ⟨found, retrieved, chosen⟩ := retrieve_eq stored.ready stored.plain eventClass sound
    (stored.tables _ listed) low high lowFits highFits
  refine ⟨found, retrieved, chosen.trans (.of_eq ?_)⟩
  rw [filter_map_read storable events each eventClass listed low high, List.map_map]
  refine Eq.trans (List.map_congr_left fun event member => ?_) (List.map_id _)
  obtain ⟨kept, wanted⟩ := List.mem_filter.mp member
  rw [Bool.and_eq_true, decide_eq_true_eq] at wanted
  obtain ⟨rfl, _⟩ := wanted
  exact event.ofCells_read sound (each event kept).2

end Run

end Event

namespace Migration

open Event

theorem isPlain_of_holds {database : Database} {targets : List Target} (plan : IsPlan targets)
    (holds : Holds database targets fun _ => []) : database.IsPlain := by
  constructor
  · intro table member
    rw [holds.tables] at member
    obtain ⟨target, targetMember, rfl⟩ := List.mem_map.mp member
    have proper := plan.proper target targetMember
    exact .of_plain target.table target.columns proper.inhabited
      (fun column listed => ⟨proper.columns column listed, proper.types column listed⟩) proper.distinct
  · rw [holds.tables, List.map_map]
    exact plan.distinct
  · intro index member
    rw [holds.indexes] at member
    obtain ⟨target, _, rfl⟩ := List.mem_map.mp member
    rfl
  · exact holds.views
  · exact holds.triggers

theorem isPlain_of_empty {database : Database} (empty : Holds database [] fun _ => []) :
    database.IsPlain :=
  isPlain_of_holds ⟨by simp, by simp, by simp, by simp⟩ empty

theorem table?_of_holds {database : Database} {targets : List Target} {rows : Text → List SqlRow}
    (plan : IsPlan targets) (holds : Holds database targets rows) (target : Target)
    (member : target ∈ targets) :
    database.table? target.table = some (target.tableWith (rows target.table)) := by
  obtain ⟨before, behind, rfl⟩ := List.append_of_mem member
  have new := isNew_of_isPlan before target behind plan
  have none : (before.map fun other => other.tableWith (rows other.table)).find?
      (fun table => sameName table.name target.table) = none := by
    rw [List.find?_eq_none]
    simpa [Target.tableWith, SqlTable.plain] using new.table
  rw [Database.table?, holds.tables, List.map_append, List.find?_append, none, List.map_cons]
  simp [Target.tableWith, SqlTable.plain]

section Schema

variable (schema : RawSchema) (sourcePath : Option Text) (accepted : Validation.Accepts schema)
  (plainNames : schema.HasPlainNames)

include accepted plainNames

theorem areStorable_moduleOf : AreStorable (moduleOf schema sourcePath).classes := by
  have sound : ∀ eventClass ∈ (moduleOf schema sourcePath).classes, eventClass.IsSound := by
    intro eventClass member
    obtain ⟨event, eventMember, rfl⟩ := (mem_classes_moduleOf schema sourcePath _).mp member
    exact isSound_classOf event (accepted.events event eventMember)
      (plainNames.events event eventMember) (plainNames.fields event eventMember)
  refine ⟨sound, ?_⟩
  intro first firstMember second secondMember different
  rw [Bool.eq_false_iff, ne_eq, sameName_iff]
  intro same
  have distinct := (isPlan_moduleOf schema sourcePath accepted plainNames).distinct
  obtain ⟨position, firstAt⟩ := List.mem_iff_getElem?.mp firstMember
  obtain ⟨other, secondAt⟩ := List.mem_iff_getElem?.mp secondMember
  obtain ⟨inside, _⟩ := List.getElem?_eq_some_iff.mp firstAt
  have places := (List.getElem?_inj (i := position) (j := other) (by simpa using inside) distinct).mp (by
    simp [firstAt, secondAt, Target.ofClass, same])
  rw [places, secondAt] at firstAt
  exact different (Option.some.inj firstAt).symm

/-- The tables of a module that is migrated from an empty database hold no events. -/
theorem areStored_migrate (connection : Connection) (ready : connection.IsReady)
    (empty : Holds connection.database [] fun _ => [])
    (succeeds : (migrate connection (moduleOf schema sourcePath)).error = none) :
    AreStored (migrate connection (moduleOf schema sourcePath)).connection
      (moduleOf schema sourcePath).classes [] := by
  have plan := isPlan_moduleOf schema sourcePath accepted plainNames
  have free := (migrate_moduleOf_iff schema sourcePath accepted plainNames connection ready empty).mp
    succeeds
  have disjoint := (isDisjoint_moduleOf_iff schema sourcePath accepted).mpr free
  obtain ⟨migrated, run, migratedReady, holds⟩ := migrateAll_of_isDisjoint [] _ ready plan empty
    (fun _ _ => rfl) disjoint
  have whole : (migrate connection (moduleOf schema sourcePath)).connection = migrated := by
    rw [migrate, run]
  rw [whole]
  refine ⟨migratedReady, isPlain_of_holds plan holds, ?_⟩
  intro eventClass member
  have target := List.mem_map_of_mem (f := Target.ofClass) member
  refine ⟨_, table?_of_holds plan holds _ target, ?_, rfl⟩
  intro column columnMember
  obtain ⟨event, _, rfl⟩ := (mem_classes_moduleOf schema sourcePath _).mp member
  rw [columns_classOf] at columnMember
  obtain ⟨definition, definitionMember, rfl⟩ := List.mem_map.mp columnMember
  rw [SqlTable.column?, List.find?_isSome]
  exact ⟨.plain definition, List.mem_map_of_mem definitionMember, sameName_self _⟩

end Schema

/-- What a module stores in tables that it migrated from an empty database comes back exactly: each
event of a class whose time lies in the range as often as it was stored, and nothing else. -/
theorem retrieve_is_exact (schema : RawSchema) (sourcePath : Option Text) (compiled : CompiledSchema)
    (made : compileRaw schema sourcePath = .ok compiled) (session : ScriptState)
    (reference path : Text) (loads : (EventModule.ofCompiled compiled).Loads session reference path)
    (connection : Connection) (ready : connection.IsReady)
    (empty : Holds connection.database [] fun _ => [])
    (succeeds : (migrate connection (EventModule.ofCompiled compiled)).error = none)
    (events : List Event)
    (each : ∀ event ∈ events,
      event.eventClass ∈ (EventModule.ofCompiled compiled).classes ∧ event.Fits) :
    ∃ stored : Connection, events.foldlM (fun connection event => event.store connection)
        (migrate connection (EventModule.ofCompiled compiled)).connection = .ok stored ∧
      ∀ eventClass ∈ (EventModule.ofCompiled compiled).classes, ∀ low high : Int,
        Cell.inRange low = true → Cell.inRange high = true →
          ∃ found, Event.retrieve eventClass stored (.integer low) (.integer high) = .ok found ∧
            found.Perm (events.filter fun event =>
              event.eventClass = eventClass && event.isWithin low high) := by
  obtain ⟨accepted, rfl⟩ := of_compileRaw schema sourcePath compiled made
  have plainNames := hasPlainNames_of_loads schema sourcePath accepted session reference path loads
  have storable := areStorable_moduleOf schema sourcePath accepted plainNames
  have start := areStored_migrate schema sourcePath accepted plainNames connection ready empty succeeds
  obtain ⟨stored, run, whole, _⟩ := start.storeAll storable events each
  rw [List.nil_append] at whole
  refine ⟨stored, run, fun eventClass listed low high lowFits highFits => ?_⟩
  exact whole.retrieve storable each eventClass listed low high lowFits highFits

/-- An event with a time, and the time of its creation. -/
def loginAt (time : Int) : Event where
  eventClass := classOf (timedEvent "login")
  values := [.integer time, .integer 9]

theorem retrieved_login : (classOf (timedEvent "login")).retrieved =
    [{ name := "time", width := 64 }, { name := "created_at", width := 64 }] :=
  retrieved_alone _ (.text "timestamp") rfl

theorem fits_loginAt (time : Int) (fits : Event.IsOfWidth time 64) : (loginAt time).Fits := by
  constructor
  · rw [loginAt, retrieved_login]
    rfl
  · rw [loginAt, retrieved_login]
    intro entry member
    simp only [List.zip_cons_cons, List.zip_nil_left, List.mem_cons, List.not_mem_nil, or_false] at member
    rcases member with rfl | rfl
    · exact ⟨time, rfl, fits⟩
    · exact ⟨9, rfl, by decide, by decide⟩

theorem isWithin_loginAt (time low high : Int) :
    (loginAt time).isWithin low high = (decide (low ≤ time) && decide (time ≤ high)) := by
  have timed : (loginAt time).eventClass.timeColumn = timeName :=
    timeColumn_entityOf _ (acceptsEvent_timedEvent "login" Identifier.isUsable_login)
  have value : (loginAt time).value timeName = .integer time := by
    rw [Event.value_eq, loginAt, attributes_classOf, attributeNames_alone _ (.text "timestamp") rfl]
    rfl
  rw [Event.isWithin, timed, value]

theorem loginSchema_retrieve_is_exact : ∃ compiled stored found,
    compileRaw loginSchema none = .ok compiled ∧
      [loginAt 5, loginAt 30, loginAt 5].foldlM (fun connection event => event.store connection)
        (migrate emptyConnection (EventModule.ofCompiled compiled)).connection = .ok stored ∧
      Event.retrieve (classOf (timedEvent "login")) stored (.integer 0) (.integer 9) = .ok found ∧
      found.Perm ([loginAt 5, loginAt 30, loginAt 5].filter fun event =>
        event.eventClass = classOf (timedEvent "login") && event.isWithin 0 9) := by
  obtain ⟨made, loads⟩ := compiles_loginSchema
  have listed := mem_classes_loginSchema
  obtain ⟨stored, run, retrieves⟩ := retrieve_is_exact loginSchema none _ made bareSession
    "events.py" "events.py" loads emptyConnection ⟨rfl, rfl⟩ (holds_empty _) migrates_loginSchema
    [loginAt 5, loginAt 30, loginAt 5] (by
      intro event member
      have login : event = loginAt 5 ∨ event = loginAt 30 ∨ event = loginAt 5 := by
        simpa using member
      rcases login with rfl | rfl | rfl
      · exact ⟨listed, fits_loginAt 5 ⟨by decide, by decide⟩⟩
      · exact ⟨listed, fits_loginAt 30 ⟨by decide, by decide⟩⟩
      · exact ⟨listed, fits_loginAt 5 ⟨by decide, by decide⟩⟩)
  obtain ⟨found, retrieved, whole⟩ := retrieves _ listed 0 9 (by decide) (by decide)
  exact ⟨_, stored, found, made, run, retrieved, whole⟩

end Migration

end EventForge
