import EventForge.Proofs.Sql.InsertedRow
import EventForge.Proofs.Store.Retrieval

/-!
# What storing an event comes to

Storing an event is all or nothing where the database takes rows as they are: it adds one row to the
table of the event, with the value of each attribute in its column, or it leaves the database and
names the table.  A database can ask for something else.
-/

namespace EventForge

open Outcome SqlToken SqlReader

/-- The insertion that stores the events of a class. -/
def EventClass.insertion (eventClass : EventClass) : Statement :=
  .rows (.insert (plainInsertion eventClass.table eventClass.columns))

namespace Connection

/-- The insertion of a class is checked, its values are bound, and it is performed. -/
theorem execute_insertion {eventClass : EventClass} (sound : eventClass.IsSound)
    (connection : Connection) (ready : connection.IsReady) (values : List Document)
    (count : values.length = eventClass.columns.length) :
    connection.execute eventClass.insertStatement (bindings values) = (do
      (connection.database.prepare eventClass.insertion).mapError SqlFault.refused
      let cells ← (values.zipIdx 1).mapM fun entry => bind entry.2 entry.1
      let result ← (connection.database.perform (numbered cells)
        eventClass.insertion).mapError SqlFault.refused
      return (result.1.map (·.map documentOf), { connection with database := result.2 })) := by
  have spelled := spells_insertTokens _ _ sound.table.plain
    fun name member => (sound.columns name member).plain
  have given : bindings values ≠ [] := by
    have inhabited : values ≠ [] := by
      rintro rfl
      exact sound.inhabited (List.length_eq_zero_iff.mp count.symm)
    simpa [bindings] using inhabited
  have bound := bindAll_bindings values
  rw [count] at bound
  rw [sound.insertion, insertText_eq, execute_spell connection ready _ spelled _ _ _
    (ofText_insert _ _ sound.table sound.inhabited sound.columns) (.inl given), bound]
  cases (values.zipIdx 1).mapM fun entry => bind entry.2 entry.1 <;> rfl

end Connection

namespace Event

variable {event : Event} {connection : Connection}

/-- An event that is stored is one more row of its table, with the value of each attribute in its
column. -/
theorem gains_of_store (sound : event.eventClass.IsSound)
    (takes : connection.database.TakesRows event.eventClass.table event.eventClass.columns)
    (after : Connection) (stored : event.store connection = .ok after) :
    after = { connection with database := after.database } ∧ ∃ table row,
      connection.database.table? event.eventClass.table = some table ∧
        connection.database.Gains table row after.database ∧
        ∀ entry ∈ event.eventClass.attributes.zip event.eventClass.columns,
          ∃ position cell, Connection.bind position (event.value entry.1.name) = .ok cell ∧
            table.Keeps connection.database row entry.2 cell := by
  have count : event.storedValues.length = event.eventClass.columns.length := by
    rw [storedValues, List.length_map, sound.count]
  unfold store at stored
  split at stored
  · rename_i rows changed executed
    obtain rfl := Except.ok.inj stored
    rw [connection.execute_insertion sound (Connection.isReady_of_execute executed) _ count]
      at executed
    obtain ⟨_, _, executed⟩ := (bind_eq_ok_iff _ _ _).mp executed
    obtain ⟨cells, bound, executed⟩ := (bind_eq_ok_iff _ _ _).mp executed
    obtain ⟨result, performed, executed⟩ := (bind_eq_ok_iff _ _ _).mp executed
    obtain rfl := congrArg Prod.snd (Except.ok.inj executed)
    obtain ⟨width, each⟩ := mapM_positions _ _ _ bound
    rw [List.length_zipIdx] at width
    obtain ⟨_, table, row, found, gains, keeps⟩ := Database.gains_of_performOnRows takes
      sound.distinct cells (width.trans count) _ _ ((mapError_eq_ok_iff _ _ _).mp performed)
    refine ⟨rfl, table, row, found, gains, fun entry member => ?_⟩
    obtain ⟨position, pairAt⟩ := List.mem_iff_getElem?.mp member
    obtain ⟨attributeAt, columnAt⟩ := List.getElem?_zip_eq_some.mp pairAt
    have valueAt : event.storedValues[position]? = some (event.value entry.1.name) := by
      rw [storedValues, ← sound.attributes, List.getElem?_map, List.getElem?_map, attributeAt]
      rfl
    obtain ⟨inside, _⟩ := List.getElem?_eq_some_iff.mp valueAt
    have cellAt := List.getElem?_eq_getElem (show position < cells.length by rw [width]; exact inside)
    have own := each position _ _ (by rw [List.getElem?_zipIdx, valueAt]; rfl) cellAt
    exact ⟨_, _, own, keeps position entry.2 _ columnAt cellAt⟩
  · cases stored

end Event

namespace Migration

open Compilation

/-- An event of logins with two values. -/
def loginOf (time created : Document) : Event where
  eventClass := classOf (timedEvent "login")
  values := [time, created]

/-- Storing an event of logins performs the insertion of its values. -/
theorem store_loginOf (connection : Connection) (ready : connection.IsReady)
    (time created : Document) (first second : Cell) (after : Database)
    (prepared : connection.database.prepare
      (.rows (.insert (plainInsertion "login" ["time", "created_at"]))) = .ok ())
    (firstBound : Connection.bind 1 time = .ok first)
    (secondBound : Connection.bind 2 created = .ok second)
    (performed : connection.database.perform [("1", first), ("2", second)]
      (.rows (.insert (plainInsertion "login" ["time", "created_at"]))) = .ok ([], after)) :
    (loginOf time created).store connection = .ok { connection with database := after } := by
  have values : (loginOf time created).storedValues = [time, created] := by
    refine (loginOf time created).storedValues_eq isSound_login ?_
    rw [loginOf, columns_login]
    rfl
  have insertion : (classOf (timedEvent "login")).insertion =
      .rows (.insert (plainInsertion "login" ["time", "created_at"])) := by
    rw [EventClass.insertion, columns_login]
    rfl
  have bound : ([time, created].zipIdx 1).mapM (fun entry => Connection.bind entry.2 entry.1) =
      .ok [first, second] := by
    simp [firstBound, secondBound]
  have executed : connection.execute (classOf (timedEvent "login")).insertStatement
      (Connection.bindings [time, created]) = .ok ([], { connection with database := after }) := by
    rw [connection.execute_insertion isSound_login ready _ (by rw [columns_login]; rfl), insertion,
      prepared, bound]
    simp only [mapError_ok, ok_bind, Connection.numbered_pair, performed]
    rfl
  rw [Event.store, values, show (loginOf time created).eventClass = classOf (timedEvent "login")
    from rfl, executed]

/-- A plain table of logins takes a row more, whatever rows it has. -/
theorem takesRows_loginTable (rows : List SqlRow) :
    (Database.empty.addTable { SqlTable.plain "login" [("time", "BIGINT"), ("created_at", "BIGINT")]
        with rows } []).TakesRows
      (classOf (timedEvent "login")).table (classOf (timedEvent "login")).columns where
  distinct := List.nodup_singleton _
  untriggered := rfl
  table table found := by
    obtain rfl := Option.some.inj found
    exact
      { numbers := ⟨nofun, nofun⟩
        values := fun column member needed => by
          rcases List.mem_pair.mp member with rfl | rfl <;> cases needed
        keys := nofun
        named := fun name member isNumber => by
          rw [columns_login] at member
          rcases List.mem_pair.mp member with rfl | rfl <;> exact absurd isNumber (by decide)
        notes := nofun }

end Migration

end EventForge
