import EventForge.Store.Event
import EventForge.Proofs.Outcome
import EventForge.Proofs.Store.EventStatement
import EventForge.Proofs.Store.Narrowing

/-!
# Storing and retrieving events

An event of a class whose table is there is stored as a row that holds its values under the names of
their columns.  Retrieving gives back what the rows of the table hold whose time lies in the range.
-/

/-!
## Rows of events
-/

namespace EventForge

open Outcome SqlToken SqlReader

namespace Connection

/-- Values are bound to numbered parameters, by induction on the parameters that are left. -/
theorem bindAll_bindings (values : List Document) :
    bindAll (bindings values) 1
        ((parameterNumbers values.length).map fun number => some (Text.ofNat number)) =
      ((values.zipIdx 1).mapM fun entry => bind entry.2 entry.1).map numbered := by
  have rest : ∀ (left : List Document) (start : Nat),
      (∀ (position : Nat) (value : Document), left[position]? = some value →
        Fields.get? (bindings values) (Text.ofNat (start + position)) = some value) →
      bindAll (bindings values) start
          ((List.range' start left.length).map fun number => some (Text.ofNat number)) =
        ((left.zipIdx start).mapM fun entry => bind entry.2 entry.1).map fun cells =>
          (cells.zipIdx start).map fun entry => (Text.ofNat entry.2, entry.1) := by
    intro left
    induction left with
    | nil =>
        intro start _
        rfl
    | cons value left ih =>
        intro start given
        have own := given 0 value rfl
        have later := ih (start + 1) (by
          intro position other otherAt
          have further := given (position + 1) other (by simpa using otherAt)
          rwa [show start + (position + 1) = start + 1 + position by omega] at further)
        rw [Nat.add_zero] at own
        simp only [List.length_cons, List.range'_succ, List.map_cons, bindAll, own, List.zipIdx_cons,
          List.mapM_cons, later]
        cases bind start value with
        | error fault => rfl
        | ok cell => cases (left.zipIdx (start + 1)).mapM fun entry => bind entry.2 entry.1 <;> rfl
  have numbers : parameterNumbers values.length = List.range' 1 values.length := by
    rw [parameterNumbers, List.range'_eq_map_range]
    exact List.map_congr_left fun index _ => Nat.add_comm index 1
  rw [numbers]
  refine rest values 1 fun position value valueAt => ?_
  rw [Fields.get?, Nat.add_comm 1 position]
  exact congrArg (Option.map Prod.snd) (find?_numbered values position value valueAt)

theorem numbered_pair {Value : Type} (first second : Value) :
    numbered [first, second] = [(("1" : Text), first), ("2", second)] := by
  rw [show ("1" : Text) = Text.ofNat 1 by decide, show ("2" : Text) = Text.ofNat 2 by decide]
  rfl

/-- Integers that the database has room for are bound as they are. -/
theorem bindAll_numbered (values : List Int) (inRange : ∀ value ∈ values, Cell.inRange value = true) :
    bindAll (numbered (values.map Document.integer)) 1
        ((parameterNumbers values.length).map fun number => some (Text.ofNat number)) =
      .ok (numbered (values.map Cell.integer)) := by
  have every := bindAll_bindings (values.map Document.integer)
  have cells : ((values.map Document.integer).zipIdx 1).mapM (fun entry => bind entry.2 entry.1) =
      .ok (values.map Cell.integer) := by
    rw [List.zipIdx_map, List.mapM_map, mapM_eq_ok_map _ (fun entry => Cell.integer entry.1),
      ← Function.comp_def Cell.integer, ← List.map_map, List.zipIdx_map_fst]
    intro entry member
    have fits := inRange entry.1 (List.fst_mem_of_mem_zipIdx member)
    simp [bind, fits]
  rw [List.length_map, cells] at every
  exact every

section Execution

variable (connection : Connection) (ready : connection.IsReady)
  (plain : connection.database.IsPlain) {table : Text} (named : IsName table) {found : SqlTable}
  (tableAt : connection.database.table? table = some found) {names : List Text}
  (inhabited : names ≠ []) (columns : ∀ name ∈ names, IsName name)
  (known : ∀ name ∈ names, (found.column? name).isSome = true)

include ready plain named tableAt inhabited columns known

theorem execute_insert (values : List Int) (width : values.length = names.length)
    (inRange : ∀ value ∈ values, Cell.inRange value = true) :
    ∃ after : Connection,
      connection.execute (spell (insertTokens table names))
        (numbered (values.map Document.integer)) = .ok ([], after) ∧ after.IsReady ∧
      after.database.SameContent (connection.database.update found.name fun _ =>
        found.withRow (found.givenCells names (values.map Cell.integer))) := by
  have given : numbered (values.map Document.integer) ≠ [] := by
    have long : values ≠ [] := by
      rintro rfl
      exact inhabited (List.length_eq_zero_iff.mp width.symm)
    simpa [numbered] using long
  have bound := bindAll_numbered values inRange
  rw [width] at bound
  have prepared := connection.database.performOnRows_insert_checking plain tableAt names known
  have performed := connection.database.performOnRows_insert plain tableAt names known
    (values.map Cell.integer) (by rw [List.length_map, width]) (by simp)
  rw [execute_spell connection ready _ (spells_insertTokens table names named.plain
    fun name member => (columns name member).plain) _ _ _
    (ofText_insert table names named inhabited columns) (.inl given)]
  simp only [Database.prepare, Database.perform, prepared, bound, performed, ok_bind, pure_eq_ok]
  have content := Database.sameContent_recorded connection.database (insertTokens table names)
    (.rows (.insert (plainInsertion table names)))
    (connection.database.update found.name fun _ =>
      found.withRow (found.givenCells names (values.map Cell.integer)))
  exact ⟨_, rfl, ⟨ready.opened, ready.known⟩, content⟩

theorem execute_range (time : Text) (timeNamed : IsName time)
    (timeKnown : (found.column? time).isSome = true) (low high : Int)
    (lowFits : Cell.inRange low = true) (highFits : Cell.inRange high = true) :
    ∃ (rows : List (List Cell)) (after : Connection), connection.execute (spell (selectTokens table names time))
        (numbered [.integer low, .integer high]) = .ok (rows.map (·.map documentOf), after) ∧
      rows.Perm ((found.contents.filter fun read =>
        ((read time).liesBetween (.integer low) (.integer high)).truth? = some true).map fun read =>
          names.map read) := by
  have bound := bindAll_numbered [low, high] (by simp [lowFits, highFits])
  have tablePlain := plain.table tableAt
  obtain ⟨unknown, prepared, _⟩ := connection.database.performOnRows_range [] true table found tableAt
    tablePlain.holdsIntegers names time known timeKnown .null .null (.inl ⟨rfl, rfl⟩) (.inl ⟨rfl, rfl⟩)
  obtain ⟨rows, performed, chosen⟩ := connection.database.performOnRows_range
    (numbered [.integer low, .integer high]) false table found tableAt
    tablePlain.holdsIntegers names time known timeKnown (.integer low) (.integer high)
    (.inr ⟨rfl, find?_numbered _ 0 _ rfl⟩) (.inr ⟨rfl, find?_numbered _ 1 _ rfl⟩)
  have bound : bindAll (numbered [.integer low, .integer high]) 1 [some "1", some "2"] =
      .ok (numbered [.integer low, .integer high]) := by
    have one : Text.ofNat 1 = "1" := by decide
    have two : Text.ofNat 2 = "2" := by decide
    rw [← one, ← two]
    exact bound
  have executed := execute_spell connection ready _ (spells_selectTokens table names time named.plain
    inhabited (fun name member => (columns name member).plain) timeNamed.plain) _ _
    (numbered [.integer low, .integer high])
    (ofText_select table names time named inhabited columns timeNamed) (.inl (by simp [numbered]))
  simp only [Database.prepare, Database.perform, prepared, bound, performed, ok_bind, pure_eq_ok]
    at executed
  refine ⟨rows, _, executed, (chosen rfl).trans (.of_eq ?_)⟩
  rw [SqlTable.contents, List.filter_map, List.map_map]
  rfl

/-- A bound that is no integer of the database is refused. -/
theorem execute_range_beyond (time : Text) (timeNamed : IsName time)
    (timeKnown : (found.column? time).isSome = true) (low high : Int)
    (beyond : ¬(Cell.inRange low = true ∧ Cell.inRange high = true)) :
    connection.execute (spell (selectTokens table names time))
      (numbered [.integer low, .integer high]) = .error .integerRange := by
  have tablePlain := plain.table tableAt
  obtain ⟨unknown, prepared, _⟩ := connection.database.performOnRows_range [] true table found tableAt
    tablePlain.holdsIntegers names time known timeKnown .null .null (.inl ⟨rfl, rfl⟩) (.inl ⟨rfl, rfl⟩)
  have bound : bindAll (numbered [.integer low, .integer high]) 1 [some "1", some "2"] =
      .error .integerRange := by
    have one : Fields.get? (numbered [Document.integer low, .integer high]) ("1" : Text) =
        some (.integer low) := by
      rw [Fields.get?, show ("1" : Text) = Text.ofNat 1 by decide, find?_numbered _ 0 _ rfl]
      rfl
    have two : Fields.get? (numbered [Document.integer low, .integer high]) ("2" : Text) =
        some (.integer high) := by
      rw [Fields.get?, show ("2" : Text) = Text.ofNat 2 by decide, find?_numbered _ 1 _ rfl]
      rfl
    by_cases lowFits : Cell.inRange low = true
    · have highBeyond : Cell.inRange high = false := by
        rw [Bool.eq_false_iff]
        exact fun fits => beyond ⟨lowFits, fits⟩
      simp [bindAll, one, two, bind, lowFits, highBeyond]
    · simp [bindAll, one, bind, lowFits]
  rw [execute_spell connection ready _ (spells_selectTokens table names time named.plain
    inhabited (fun name member => (columns name member).plain) timeNamed.plain) _ _
    (numbered [.integer low, .integer high])
    (ofText_select table names time named inhabited columns timeNamed) (.inl (by simp [numbered]))]
  simp only [Database.prepare, prepared, bound, ok_bind, error_bind, mapError_ok, pure_eq_ok]

end Execution

end Connection

theorem SqlTable.IsPlain.contents {table : SqlTable} (plain : table.IsPlain) (read : Text → Cell)
    (member : read ∈ table.contents) (name : Text) :
    read name = .null ∨ ∃ value, read name = .integer value := by
  obtain ⟨row, rowMember, rfl⟩ := List.mem_map.mp member
  unfold SqlTable.cellOf
  cases table.columnIndex? name with
  | none => exact .inl rfl
  | some position =>
      rw [Option.bind_some]
      cases found : row.cells[position]? with
      | none => exact .inl rfl
      | some cell => exact plain.integers row rowMember cell (List.mem_of_getElem? found)

/-- The integer of a width that a cell comes to. -/
def Codec.wrapped (cell : Cell) (width : Nat) : Int :=
  match cell with
  | .integer value => wrap value width
  | _ => 0

namespace Event

/-- The event that some cells come to. -/
def ofCells (eventClass : EventClass) (cells : List Cell) : Event where
  eventClass
  values := (eventClass.retrieved.zip cells).map fun entry =>
    .integer (Codec.wrapped entry.2 entry.1.width)

theorem value_eq (event : Event) (name : Text) :
    event.value name = (Fields.get? ((event.eventClass.attributes.map Attribute.name).zip event.values)
      name).getD (.integer 0) := by
  rw [value, Fields.get?, List.zip_map_left, List.find?_map, Option.map_map]
  rfl

/-- Storing binds the values of an event in their order. -/
theorem storedValues_eq (event : Event) (sound : event.eventClass.IsSound)
    (count : event.values.length = event.eventClass.columns.length) :
    event.storedValues = event.values := by
  have each : event.value = fun name =>
      (Fields.get? (event.eventClass.stored.zip event.values) name).getD (.integer 0) := by
    funext name
    rw [event.value_eq name, sound.attributes]
  rw [storedValues, each]
  exact Fields.map_get?_zip _ _ sound.names (count.trans sound.count.symm) _

/-- The value of an attribute stands at the place of the attribute. -/
theorem value_at (event : Event) (sound : event.eventClass.IsSound)
    (count : event.values.length = event.eventClass.columns.length) {name : Text} {value : Document}
    (position : Nat) (named : event.eventClass.stored[position]? = some name)
    (found : event.values[position]? = some value) : event.value name = value := by
  have every := Fields.map_get?_zip event.eventClass.stored event.values sound.names
    (count.trans sound.count.symm) (.integer 0)
  have own := congrArg (fun values => values[position]?) every
  simp only [List.getElem?_map, named, found, Option.map_some, Option.some.injEq] at own
  rw [event.value_eq, sound.attributes, own]

theorem decode_cell (cell : Cell) (integer : cell = .null ∨ ∃ value, cell = .integer value)
    (width : Nat) (known : width = 32 ∨ width = 64) :
    Codec.decode (Connection.documentOf cell) width = .ok (Codec.wrapped cell width) := by
  rcases integer with rfl | ⟨value, rfl⟩
  · rfl
  · exact Codec.narrow_eq_wrap value (Codec.isWidth_of_known width known)

/-- Rows are decoded cell by cell, by induction on the columns that are left. -/
theorem decodeColumns_eq (row : List Document) (decodings : List Decoding) (cells : List Cell)
    (index : Nat) (left : row.drop index = cells.map Connection.documentOf)
    (count : cells.length = decodings.length)
    (integers : ∀ cell ∈ cells, cell = .null ∨ ∃ value, cell = .integer value)
    (widths : ∀ decoding ∈ decodings, decoding.width = 32 ∨ decoding.width = 64) :
    decodeColumns row index decodings = .ok ((decodings.map Decoding.name).zip
      ((decodings.zip cells).map fun entry => .integer (Codec.wrapped entry.2 entry.1.width))) := by
  induction decodings generalizing cells index with
  | nil => rfl
  | cons decoding decodings ih =>
      cases cells with
      | nil => cases count
      | cons cell cells =>
          have own : row.getD index .null = Connection.documentOf cell := by
            rw [List.getD_eq_getElem?_getD, ← Nat.add_zero index, ← List.getElem?_drop, left]
            rfl
          have behind : row.drop (index + 1) = cells.map Connection.documentOf := by
            rw [← List.tail_drop, left]
            rfl
          have later := ih cells (index + 1) behind (by simpa using count)
            (fun other member => integers other (by simp [member]))
            (fun other member => widths other (by simp [member]))
          have decoded := decode_cell cell (integers cell (by simp)) decoding.width
            (widths decoding (by simp))
          rw [decodeColumns, own, decoded, ok_bind, later]
          rfl

theorem ofRow_eq (eventClass : EventClass) (sound : eventClass.IsSound) (cells : List Cell)
    (count : cells.length = eventClass.columns.length)
    (integers : ∀ cell ∈ cells, cell = .null ∨ ∃ value, cell = .integer value) :
    ofRow eventClass (cells.map Connection.documentOf) = .ok (ofCells eventClass cells) := by
  have length : eventClass.retrieved.length = eventClass.columns.length := by
    rw [← sound.count, ← sound.retrieved, List.length_map]
  have decoded := decodeColumns_eq (cells.map Connection.documentOf) eventClass.retrieved cells 0 rfl
    (count.trans length.symm) integers sound.widths
  have values := Fields.map_get?_zip eventClass.stored (ofCells eventClass cells).values sound.names
    (by simp [ofCells, length, count, sound.count]) (.integer 0)
  rw [ofRow, decoded, ok_bind, sound.retrieved, pure_eq_ok]
  refine congrArg Except.ok ?_
  rw [ofFields, ofCells]
  congr 1
  refine Eq.trans ?_ values
  conv => rhs; arg 2; rw [← sound.attributes]
  rw [List.map_map]
  rfl

section Connected

variable {connection : Connection} (ready : connection.IsReady) (plain : connection.database.IsPlain)

include ready plain

/-- Storing an event adds a row to the table of its class, and to no other one. -/
theorem store_eq (event : Event) (sound : event.eventClass.IsSound) {contents : List (Text → Cell)}
    (has : connection.database.Has event.eventClass.table event.eventClass.columns contents)
    (values : List Int) (held : event.values = values.map Document.integer)
    (count : values.length = event.eventClass.columns.length)
    (inRange : ∀ value ∈ values, Cell.inRange value = true) :
    ∃ after : Connection, event.store connection = .ok after ∧ after.IsReady ∧
      after.database.IsPlain ∧
      after.database.Has event.eventClass.table event.eventClass.columns
        (contents ++ [SqlTable.givenValue event.eventClass.columns (values.map Cell.integer)]) ∧
      (∀ table names others, sameName event.eventClass.table table = false →
        connection.database.Has table names others → after.database.Has table names others) ∧
      after.database.indexes = connection.database.indexes := by
  obtain ⟨found, tableAt, known, rfl⟩ := has
  have foundPlain := plain.table tableAt
  obtain ⟨after, executed, afterReady, same⟩ := connection.execute_insert ready plain sound.table
    tableAt sound.inhabited sound.columns known values count inRange
  let cells := found.givenCells event.eventClass.columns (values.map Cell.integer)
  have integers : ∀ cell ∈ cells, cell = .null ∨ ∃ value, cell = .integer value := by
    intro cell member
    obtain ⟨column, _, rfl⟩ := List.mem_map.mp member
    exact SqlTable.givenValue_integers _ _ (by simp) column.name
  have grownPlain : (found.withRow cells).IsPlain :=
    foundPlain.withRow cells (by simp [cells, SqlTable.givenCells]) integers
  have tables (name : Text) : after.database.table? name =
      (connection.database.update found.name fun _ => found.withRow cells).table? name := by
    unfold Database.table?
    rw [same.tables]
  have lookup := Database.table?_update connection.database found.name (fun _ => found.withRow cells)
    fun _ _ => sameName_self _
  have stored : event.store connection = .ok after := by
    rw [store, sound.insertion, event.storedValues_eq sound (by simp [held, count]), held,
      insertText_eq]
    rw [show Connection.bindings (values.map Document.integer) =
      numbered (values.map Document.integer) from rfl, executed]
  refine ⟨after, stored, afterReady, (plain.update grownPlain).of_sameContent same, ?_, ?_, same.indexes⟩
  · refine ⟨found.withRow cells, ?_, known, ?_⟩
    · rw [tables, lookup, tableAt, Option.map_some, if_pos (sameName_self _)]
    · rw [SqlTable.contents, SqlTable.withRow, List.map_append, List.map_singleton]
      have own := SqlTable.cellOf_given event.eventClass.columns (values.map Cell.integer)
        (found.lastId + 1) known
      exact congrArg (found.contents ++ [·]) own
  · rintro table names _ apart ⟨other, otherAt, otherKnown, rfl⟩
    refine ⟨other, ?_, otherKnown, rfl⟩
    have away : sameName found.name table = false := by
      rw [sameName_congr _ _ _ (Database.table?_some _ _ _ tableAt), apart]
    rw [tables, connection.database.table?_update_other found.name (fun _ => found.withRow cells)
      (fun _ _ => sameName_self _) away, otherAt]

/-- Retrieving gives an event for each row whose time lies in the range. -/
theorem retrieve_eq (eventClass : EventClass) (sound : eventClass.IsSound)
    {contents : List (Text → Cell)}
    (has : connection.database.Has eventClass.table eventClass.columns contents) (low high : Int)
    (lowFits : Cell.inRange low = true) (highFits : Cell.inRange high = true) :
    ∃ found, retrieve eventClass connection (.integer low) (.integer high) = .ok found ∧
      found.Perm ((contents.filter fun read => ((read eventClass.timeColumn).liesBetween
        (.integer low) (.integer high)).truth? = some true).map fun read =>
          ofCells eventClass (eventClass.columns.map read)) := by
  obtain ⟨table, tableAt, known, rfl⟩ := has
  obtain ⟨rows, after, executed, chosen⟩ := connection.execute_range ready plain sound.table tableAt
    sound.inhabited sound.columns known eventClass.timeColumn (sound.columns _ sound.timeColumn)
    (known _ sound.timeColumn) low high lowFits highFits
  have decoded : (rows.map (·.map Connection.documentOf)).mapM (ofRow eventClass) =
      .ok (rows.map (ofCells eventClass)) := by
    rw [List.mapM_map]
    refine mapM_eq_ok_map _ _ rows fun cells member => ?_
    obtain ⟨read, readMember, rfl⟩ := List.mem_map.mp (chosen.mem_iff.mp member)
    have listed := (List.mem_filter.mp readMember).1
    refine ofRow_eq eventClass sound _ (by simp) ?_
    intro cell cellMember
    obtain ⟨name, _, rfl⟩ := List.mem_map.mp cellMember
    exact (plain.table tableAt).contents read listed name
  refine ⟨rows.map (ofCells eventClass), ?_, ?_⟩
  · rw [retrieve, sound.selection, selectText_eq _ _ _ sound.inhabited]
    rw [show Connection.bindings [.integer low, .integer high] =
      numbered [.integer low, .integer high] from rfl, executed]
    simp only [decoded, mapError_ok]
  · refine (chosen.map (ofCells eventClass)).trans (.of_eq ?_)
    rw [List.map_map]
    rfl

theorem retrieve_beyond (eventClass : EventClass) (sound : eventClass.IsSound)
    {contents : List (Text → Cell)}
    (has : connection.database.Has eventClass.table eventClass.columns contents) (low high : Int)
    (beyond : ¬(Cell.inRange low = true ∧ Cell.inRange high = true)) :
    retrieve eventClass connection (.integer low) (.integer high) =
      .error (.escaped SqlFault.integerRange.fault) := by
  obtain ⟨table, tableAt, known, rfl⟩ := has
  have refused := connection.execute_range_beyond ready plain sound.table tableAt sound.inhabited
    sound.columns known eventClass.timeColumn (sound.columns _ sound.timeColumn)
    (known _ sound.timeColumn) low high beyond
  rw [retrieve, sound.selection, selectText_eq _ _ _ sound.inhabited]
  rw [show Connection.bindings [.integer low, .integer high] =
    numbered [.integer low, .integer high] from rfl, refused]
  rfl

end Connected

end Event

end EventForge
