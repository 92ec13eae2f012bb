import EventForge.Load.Loop
import EventForge.Proofs.Store.StoredEvents

/-!
# What a query of a class comes to

A query of a class gives events, or it fails for a reason that names the table and the bounds, or it
overflows: on a bound that the database has no room for, or on a stored number that is infinite.  It
leaves the database as it was in every case.
-/

/-!
## First faults

Computations one after the other fail with the fault of the first one that has one.
-/

namespace EventForge.Outcome

variable {Fault First Second : Type}

/-- Why a computation failed, if it did. -/
def fault? : Except Fault First → Option Fault
  | .ok _ => none
  | .error fault => some fault

/-- A step behind which nothing fails has the only fault. -/
theorem fault?_bind_ok (first : Except Fault First) (next : First → Second) :
    fault? (first >>= fun value => .ok (next value)) = fault? first := by
  cases first <;> simp [fault?]

theorem fault?_mapM (compute : First → Except Fault Second) (items : List First) :
    fault? (items.mapM compute) = items.findSome? fun item => fault? (compute item) := by
  induction items with
  | nil => rfl
  | cons item items ih =>
      rw [List.mapM_cons, List.findSome?_cons]
      cases found : compute item with
      | error fault => rfl
      | ok value =>
          rw [ok_bind]
          simp only [pure_eq_ok, fault?_bind_ok, ih]
          rfl

end EventForge.Outcome

namespace EventForge

open Outcome SqlToken SqlReader

/-!
## Overflows

Of the faults of the database and of decoding, only two are overflows.
-/

/-- Every refusal is a failure of the database. -/
theorem SqlRefusal.kind_ne_overflow (refusal : SqlRefusal) : refusal.kind ≠ .overflow := by
  cases refusal <;> simp [kind]

theorem SqlFault.kind_eq_overflow_iff (fault : SqlFault) :
    fault.kind = .overflow ↔ fault = .integerRange := by
  cases fault with
  | refused refusal => simpa [kind] using refusal.kind_ne_overflow
  | integerRange => simp [kind]
  | encoding error => simp [kind]

namespace Codec

/-- Why a value that is read back stands for no integer, if it does not. -/
def obstacle? : Document → Option CodecFault
  | .null => none
  | value => fault? (integerOf value)

theorem fault?_narrow (value : Int) (width : Nat) (known : width = 32 ∨ width = 64) :
    fault? (narrow value width) = none := by
  rw [narrow_eq_wrap value (isWidth_of_known width known)]
  rfl

/-- What stands for an integer is decoded to the width of every field. -/
theorem fault?_decode (value : Document) (width : Nat) (known : width = 32 ∨ width = 64) :
    fault? (decode value width) = obstacle? value := by
  have wrapped (number : Int) := fault?_narrow number width known
  have read : fault? (do narrow (← integerOf value) width) = fault? (integerOf value) := by
    cases integerOf value with
    | ok number => exact wrapped number
    | error fault => rfl
  cases value <;> first | rfl | exact read

/-- Whether a value is an infinite number. -/
def isInfinite : Document → Bool
  | .float number =>
      match Binary64.ofFloat number with
      | .infinite _ => true
      | _ => false
  | _ => false

/-- Only an infinite number overflows where values are read back. -/
theorem overflows_iff (value : Document) (fault : CodecFault) :
    obstacle? value = some fault ∧ fault.kind = .overflow ↔
      isInfinite value = true ∧ fault = .infinite := by
  -- What is read from a text fails as a value.
  have unwrapped (read : Except IntegerFault Int) (shown : Text) :
      ¬(fault? (read.mapError (CodecFault.text shown)) = some fault ∧ fault.kind = .overflow) := by
    rintro ⟨failed, overflow⟩
    cases read with
    | ok number => cases failed
    | error reason =>
        rw [mapError_error, fault?, Option.some.injEq] at failed
        rw [← failed] at overflow
        cases overflow
  cases value with
  | float number =>
      simp only [obstacle?, integerOf, isInfinite]
      cases Binary64.ofFloat number with
      | nan | finite _ _ _ => grind [fault?, CodecFault.kind]
      | infinite negative => grind [fault?, CodecFault.kind]
  | text value => simpa [obstacle?, isInfinite, integerOf] using unwrapped _ _
  | bytes value => simpa [obstacle?, isInfinite, integerOf] using unwrapped _ _
  | _ => grind [obstacle?, isInfinite, integerOf, fault?, CodecFault.kind]

end Codec

namespace Event

/-- What of some rows is decoded: as many columns as a class has. -/
def decodedValues (eventClass : EventClass) (rows : List (List Document)) : List Document :=
  rows.flatMap fun row => row.take eventClass.retrieved.length

/-- Columns are decoded up to the first that stands for no integer, by induction on those that are
left. -/
theorem fault?_decodeColumns (row : List Document) (index : Nat) (decodings : List Decoding)
    (widths : ∀ decoding ∈ decodings, decoding.width = 32 ∨ decoding.width = 64) :
    fault? (decodeColumns row index decodings) =
      ((row.drop index).take decodings.length).findSome? Codec.obstacle? := by
  induction decodings generalizing index with
  | nil => simp [decodeColumns, fault?]
  | cons decoding decodings ih =>
      have own := Codec.fault?_decode (row.getD index .null) decoding.width
        (widths decoding (by simp))
      have later := ih (index + 1) fun other member => widths other (by simp [member])
      have split : fault? (decodeColumns row index (decoding :: decodings)) =
          (Codec.obstacle? (row.getD index .null)).or
            (fault? (decodeColumns row (index + 1) decodings)) := by
        rw [← own, decodeColumns]
        cases Codec.decode (row.getD index .null) decoding.width with
        | error fault => rfl
        | ok value => exact fault?_bind_ok (decodeColumns row (index + 1) decodings) _
      rw [split, later, ← List.tail_drop, List.getD_eq_getElem?_getD, ← Nat.add_zero index,
        ← List.getElem?_drop, Nat.add_zero]
      -- A row that ends before the columns do goes on as if nothing stood there.
      cases row.drop index with
      | nil => simp [Codec.obstacle?]
      | cons value values =>
          simp only [List.getElem?_cons_zero, Option.getD_some, List.tail_cons, List.length_cons,
            List.take_succ_cons, List.findSome?_cons]
          cases Codec.obstacle? value <;> rfl

theorem fault?_ofRow {eventClass : EventClass} (sound : eventClass.IsSound) (row : List Document) :
    fault? (ofRow eventClass row) =
      (row.take eventClass.retrieved.length).findSome? Codec.obstacle? := by
  rw [← List.drop_zero (l := row), ← fault?_decodeColumns row 0 eventClass.retrieved sound.widths,
    List.drop_zero]
  exact fault?_bind_ok _ _

/-- Rows are decoded up to the first value that stands for no integer. -/
theorem fault?_ofRows {eventClass : EventClass} (sound : eventClass.IsSound)
    (rows : List (List Document)) :
    fault? (rows.mapM (ofRow eventClass)) =
      (decodedValues eventClass rows).findSome? Codec.obstacle? := by
  rw [fault?_mapM, decodedValues]
  induction rows with
  | nil => rfl
  | cons row rows ih =>
      rw [List.findSome?_cons, List.flatMap_cons, List.findSome?_append, fault?_ofRow sound, ih]
      cases (row.take eventClass.retrieved.length).findSome? Codec.obstacle? <;> rfl

end Event

/-!
## Asking the database

A query of a class is checked before its bounds are bound, and answering it changes nothing.
-/

/-- The query that retrieves the events of a class. -/
def EventClass.query (eventClass : EventClass) : Statement :=
  .rows (.query (rangeQuery eventClass.table eventClass.columns eventClass.timeColumn))

namespace Connection

/-- Whether a connection takes the query of a class, whatever its bounds are. -/
structure Takes (connection : Connection) (eventClass : EventClass) : Prop where
  ready : connection.IsReady
  prepared : connection.database.prepare eventClass.query = .ok ()

/-- Whether a value is an integer that the database has no room for. -/
def isOversized : Document → Bool
  | .integer value => !Cell.inRange value
  | _ => false

theorem bind_eq_integerRange_iff (position : Nat) (value : Document) :
    bind position value = .error .integerRange ↔ isOversized value = true := by
  cases value with
  | integer value => simp [bind, isOversized]
  | text value =>
      simp only [bind, isOversized]
      cases Utf8.encode value <;> simp
  | _ => simp [bind, isOversized]

/-- A connection that is not ready refuses everything. -/
theorem execute_of_not_ready (connection : Connection) (text : Text) (values : Fields Document)
    (unready : ¬connection.IsReady) :
    ∃ refusal, connection.execute text values = .error (.refused refusal) := by
  unfold execute
  cases closed : connection.closed with
  | true => exact ⟨.closed, rfl⟩
  | false =>
      cases foreign : connection.foreign with
      | false => exact absurd ⟨closed, foreign⟩ unready
      | true =>
          simp only [throw_eq_error, error_bind, Bool.false_eq_true, if_false, if_true]
          split
          · exact ⟨_, rfl⟩
          · exact ⟨_, rfl⟩

section Query

variable {eventClass : EventClass} (sound : eventClass.IsSound) (connection : Connection)
  (low high : Document)

include sound

/-- The query of a class is checked, its bounds are bound, and it is answered. -/
theorem execute_query (ready : connection.IsReady) :
    connection.execute eventClass.selectStatement (bindings [low, high]) = (do
      (connection.database.prepare eventClass.query).mapError SqlFault.refused
      let first ← bind 1 low
      let second ← bind 2 high
      let result ← (connection.database.perform [("1", first), ("2", second)]
        eventClass.query).mapError SqlFault.refused
      return (result.1.map (·.map documentOf), { connection with database := result.2 })) := by
  have spelled := spells_selectTokens _ _ _ sound.table.plain sound.inhabited
    (fun name member => (sound.columns name member).plain) (sound.columns _ sound.timeColumn).plain
  have bound : bindAll (bindings [low, high]) 1 [some "1", some "2"] = (do
      let first ← bind 1 low
      let second ← bind 2 high
      return [(("1" : Text), first), ("2", second)]) := by
    simp only [← numbered_pair]
    rw [show ("1" : Text) = Text.ofNat 1 by decide, show ("2" : Text) = Text.ofNat 2 by decide]
    refine (bindAll_bindings [low, high]).trans ?_
    simp only [List.zipIdx_cons, List.zipIdx_nil, List.mapM_cons, List.mapM_nil, Nat.reduceAdd]
    cases bind 1 low with
    | error fault => rfl
    | ok first => cases bind 2 high <;> rfl
  rw [sound.selection, selectText_eq _ _ _ sound.inhabited,
    execute_spell connection ready _ spelled _ _ _
      (ofText_select _ _ _ sound.table sound.inhabited sound.columns (sound.columns _ sound.timeColumn))
      (.inl (by simp [bindings])), bound]
  cases bind 1 low with
  | error fault => rfl
  | ok first => cases bind 2 high <;> rfl

/-- Answering a query leaves the connection as it is. -/
theorem eq_of_execute_query {rows : List (List Document)} {after : Connection}
    (asked : connection.execute eventClass.selectStatement (bindings [low, high]) =
      .ok (rows, after)) : after = connection := by
  rw [connection.execute_query sound low high (isReady_of_execute asked)] at asked
  obtain ⟨_, _, asked⟩ := (bind_eq_ok_iff _ _ _).mp asked
  obtain ⟨first, _, asked⟩ := (bind_eq_ok_iff _ _ _).mp asked
  obtain ⟨second, _, asked⟩ := (bind_eq_ok_iff _ _ _).mp asked
  obtain ⟨result, performed, asked⟩ := (bind_eq_ok_iff _ _ _).mp asked
  replace performed := (mapError_eq_ok_iff _ _ _).mp performed
  have same : result.2 = connection.database := by
    simp only [EventClass.query, Database.perform, Database.performOnRows] at performed
    obtain ⟨table, _, performed⟩ := (bind_eq_ok_iff _ _ _).mp performed
    split at performed
    · cases performed
    · exact congrArg Prod.snd (Except.ok.inj performed).symm
  obtain rfl := congrArg Prod.snd (Except.ok.inj asked)
  rw [same]

/-- A query overflows where it is taken and its first bound that cannot be bound has no room. -/
theorem execute_query_eq_integerRange_iff :
    connection.execute eventClass.selectStatement (bindings [low, high]) = .error .integerRange ↔
      connection.Takes eventClass ∧ (isOversized low = true ∨
        (∃ cell, bind 1 low = .ok cell) ∧ isOversized high = true) := by
  by_cases ready : connection.IsReady
  · rw [connection.execute_query sound low high ready, ← bind_eq_integerRange_iff 1 low,
      ← bind_eq_integerRange_iff 2 high]
    cases prepared : connection.database.prepare eventClass.query with
    | error refusal =>
        have untaken : ¬connection.Takes eventClass := fun takes => by
          rw [takes.prepared] at prepared
          cases prepared
        simp [untaken]
    | ok checked =>
        have takes : connection.Takes eventClass := ⟨ready, prepared⟩
        simp only [takes, true_and, mapError_ok, ok_bind]
        cases bind 1 low with
        | error fault => simp
        | ok first =>
            cases bind 2 high with
            | error fault => simp
            | ok second =>
                -- What is bound is refused by the database or answered.
                simp only [ok_bind, reduceCtorEq, Except.ok.injEq, exists_eq', false_or, true_and]
                generalize connection.database.perform _ eventClass.query = answer
                cases answer <;> simp
  · obtain ⟨refusal, refused⟩ := connection.execute_of_not_ready eventClass.selectStatement
      (bindings [low, high]) ready
    have untaken : ¬connection.Takes eventClass := fun takes => ready takes.ready
    simp [refused, untaken]

end Query

end Connection

/-!
## What retrieval comes to
-/

namespace Event

section Answer

variable (eventClass : EventClass) (connection : Connection) (low high : Document)

/-- A failure that is reported names the table of the class and the bounds. -/
theorem retrieval_names (error : RetrievalError)
    (failed : retrieve eventClass connection low high = .error (.retrieval error)) :
    error.table = eventClass.table ∧ error.low = low ∧ error.high = high := by
  have named (reason : Text) (same : queryFailure eventClass low high reason = .retrieval error) :
      error.table = eventClass.table ∧ error.low = low ∧ error.high = high := by
    obtain rfl := QueryFault.retrieval.inj same
    exact ⟨rfl, rfl, rfl⟩
  unfold retrieve at failed
  split at failed
  · split at failed
    · cases failed
    · exact named _ (Except.error.inj failed)
  · rename_i rows _ _
    cases decoded : rows.mapM (ofRow eventClass) with
    | ok found => simp [decoded] at failed
    | error fault =>
        rw [decoded, mapError_error, Except.error.injEq] at failed
        split at failed
        · cases failed
        · exact named _ failed

/-- What is retrieved are events of the class, one for each row. -/
theorem retrieved_of_ok (found : List Event)
    (retrieved : retrieve eventClass connection low high = .ok found) :
    (∀ event ∈ found, event.eventClass = eventClass) ∧ ∃ rows after,
      connection.execute eventClass.selectStatement (Connection.bindings [low, high]) =
        .ok (rows, after) ∧ found.length = rows.length := by
  unfold retrieve at retrieved
  split at retrieved
  · split at retrieved <;> cases retrieved
  · rename_i rows after asked
    have decoded := (mapM_eq_ok_iff _ _ _).mp ((mapError_eq_ok_iff _ _ _).mp retrieved)
    refine ⟨fun event member => ?_, rows, after, asked, decoded.length_eq.symm⟩
    obtain ⟨position, inside, rfl⟩ := List.getElem_of_mem member
    have own := decoded.get (i := position) (by rw [decoded.length_eq]; exact inside) inside
    obtain ⟨fields, _, same⟩ := (bind_eq_ok_iff _ _ _).mp own
    exact congrArg Event.eventClass (Except.ok.inj same).symm

/-- Of the refusals of a query, the one of a bound without room is not reported. -/
theorem escapes_of_error (refusal : SqlFault) (fault : Fault)
    (asked : connection.execute eventClass.selectStatement (Connection.bindings [low, high]) =
      .error refusal) :
    retrieve eventClass connection low high = .error (.escaped fault) ↔
      refusal = .integerRange ∧ fault = SqlFault.integerRange.fault := by
  rw [← SqlFault.kind_eq_overflow_iff, retrieve, asked]
  simp only
  split
  · rename_i overflow
    obtain rfl := (SqlFault.kind_eq_overflow_iff refusal).mp overflow
    rw [Except.error.injEq, QueryFault.escaped.injEq]
    exact ⟨fun same => ⟨rfl, same.symm⟩, fun same => same.2.symm⟩
  · rename_i reported
    exact ⟨fun same => (by cases same), fun same => absurd same.1 reported⟩

/-- Of the faults of decoding, the one of an infinite number is not reported. -/
theorem escapes_of_ok (sound : eventClass.IsSound) (rows : List (List Document))
    (after : Connection) (fault : Fault)
    (asked : connection.execute eventClass.selectStatement (Connection.bindings [low, high]) =
      .ok (rows, after)) :
    retrieve eventClass connection low high = .error (.escaped fault) ↔
      (decodedValues eventClass rows).findSome? Codec.obstacle? = some .infinite ∧
        fault = CodecFault.infinite.fault := by
  rw [← fault?_ofRows sound rows, retrieve, asked]
  cases decoded : rows.mapM (ofRow eventClass) with
  | ok found => simp [decoded, fault?]
  | error obstacle =>
      have found := fault?_ofRows sound rows
      rw [decoded] at found
      obtain ⟨value, _, stops⟩ := List.exists_of_findSome?_eq_some found.symm
      have overflows : obstacle.kind = .overflow ↔ obstacle = .infinite :=
        ⟨fun overflow => ((Codec.overflows_iff value obstacle).mp ⟨stops, overflow⟩).2,
          fun same => same ▸ rfl⟩
      simp only [decoded, mapError_error, fault?, Except.error.injEq, Option.some.injEq, overflows]
      split
      · rename_i infinite
        subst infinite
        exact ⟨fun same => ⟨rfl, (QueryFault.escaped.inj same).symm⟩, fun same => same.2 ▸ rfl⟩
      · rename_i reported
        exact ⟨fun same => (by cases same), fun same => absurd same.1 reported⟩

end Answer

/-- The first value that stands for no integer is infinite. -/
theorem findSome?_eq_infinite_iff (values : List Document) :
    values.findSome? Codec.obstacle? = some .infinite ↔
      ∃ earlier value later, values = earlier ++ value :: later ∧
        (∀ other ∈ earlier, Codec.obstacle? other = none) ∧ Codec.isInfinite value = true := by
  have infinite_iff (value : Document) :
      Codec.obstacle? value = some .infinite ↔ Codec.isInfinite value = true := by
    have overflows := Codec.overflows_iff value .infinite
    simpa [CodecFault.kind] using overflows
  simp only [List.findSome?_eq_some_iff, infinite_iff]
  grind

/-- Retrieval leaves two faults unreported: that of a bound that the database has no room for, and
that of an infinite number, where it is the first value that stands for no integer. -/
theorem retrieve_eq_escaped_iff {eventClass : EventClass} (sound : eventClass.IsSound)
    (connection : Connection) (low high : Document) (fault : Fault) :
    retrieve eventClass connection low high = .error (.escaped fault) ↔
      (connection.Takes eventClass ∧ (Connection.isOversized low = true ∨
          (∃ cell, Connection.bind 1 low = .ok cell) ∧ Connection.isOversized high = true) ∧
        fault = SqlFault.integerRange.fault) ∨
      ∃ rows, connection.execute eventClass.selectStatement (Connection.bindings [low, high]) =
          .ok (rows, connection) ∧
        (∃ earlier value later, decodedValues eventClass rows = earlier ++ value :: later ∧
          (∀ other ∈ earlier, Codec.obstacle? other = none) ∧ Codec.isInfinite value = true) ∧
        fault = CodecFault.infinite.fault := by
  rw [← and_assoc, ← connection.execute_query_eq_integerRange_iff sound low high]
  simp only [← findSome?_eq_infinite_iff]
  cases asked : connection.execute eventClass.selectStatement (Connection.bindings [low, high]) with
  | error refusal =>
      rw [escapes_of_error eventClass connection low high refusal fault asked]
      simp
  | ok answer =>
      obtain ⟨rows, after⟩ := answer
      obtain rfl := connection.eq_of_execute_query sound low high asked
      rw [escapes_of_ok eventClass _ low high sound rows _ fault asked]
      simp

/-- The operation of a reader fails in an unexpected way exactly if a fault is not reported. -/
theorem perform_query_eq_unexpected_iff (event : Event) (connection : Connection) (low high : Int)
    (fault : Fault) :
    (LoadOperation.query event low high).perform connection =
        (.error (.unexpected fault), connection) ↔
      retrieve event.eventClass connection (.integer low) (.integer high) =
        .error (.escaped fault) := by
  simp only [LoadOperation.perform]
  cases retrieve event.eventClass connection (.integer low) (.integer high) with
  | ok found => simp
  | error failure => cases failure <;> simp

end Event

namespace Migration

open Compilation

/-- Retrieval gives an event of the class for each selected row, or reports its failure with the
table and the bounds, except that it overflows on a bound beyond the integers of the database and on
an infinite number.  It changes nothing. -/
theorem retrieve_reports_or_overflows (schema : RawSchema) (sourcePath : Option Text)
    (compiled : CompiledSchema) (made : compileRaw schema sourcePath = .ok compiled)
    (session : ScriptState) (reference path : Text)
    (loads : (EventModule.ofCompiled compiled).Loads session reference path)
    (eventClass : EventClass) (listed : eventClass ∈ (EventModule.ofCompiled compiled).classes)
    (connection : Connection) (low high : Document) :
    (∀ rows after,
      connection.execute eventClass.selectStatement (Connection.bindings [low, high]) =
        .ok (rows, after) → after = connection) ∧
    (∀ found, Event.retrieve eventClass connection low high = .ok found →
      (∀ event ∈ found, event.eventClass = eventClass) ∧ ∃ rows after,
        connection.execute eventClass.selectStatement (Connection.bindings [low, high]) =
          .ok (rows, after) ∧ found.length = rows.length) ∧
    (∀ error, Event.retrieve eventClass connection low high = .error (.retrieval error) →
      error.table = eventClass.table ∧ error.low = low ∧ error.high = high) ∧
    ∀ fault, Event.retrieve eventClass connection low high = .error (.escaped fault) ↔
      (connection.Takes eventClass ∧ (Connection.isOversized low = true ∨
          (∃ cell, Connection.bind 1 low = .ok cell) ∧ Connection.isOversized high = true) ∧
        fault = SqlFault.integerRange.fault) ∨
      ∃ rows, connection.execute eventClass.selectStatement (Connection.bindings [low, high]) =
          .ok (rows, connection) ∧
        (∃ earlier value later,
          Event.decodedValues eventClass rows = earlier ++ value :: later ∧
          (∀ other ∈ earlier, Codec.obstacle? other = none) ∧ Codec.isInfinite value = true) ∧
        fault = CodecFault.infinite.fault := by
  obtain ⟨accepted, rfl⟩ := of_compileRaw schema sourcePath compiled made
  have plainNames := hasPlainNames_of_loads schema sourcePath accepted session reference path loads
  have sound := (areStorable_moduleOf schema sourcePath accepted plainNames).sound eventClass listed
  refine ⟨fun rows after asked => ?_, fun found retrieved => ?_, fun error failed => ?_,
    fun fault => ?_⟩
  · exact connection.eq_of_execute_query sound low high asked
  · exact Event.retrieved_of_ok eventClass connection low high found retrieved
  · exact Event.retrieval_names eventClass connection low high error failed
  · exact Event.retrieve_eq_escaped_iff sound connection low high fault

/-- A table with an infinite number among the times of creation. -/
def infiniteTable : SqlTable :=
  { SqlTable.plain "login" [("time", "BIGINT"), ("created_at", "BIGINT")] with
    rows := [{ id := 1, cells := [.integer 5, .real (Float.ofBits 0x7FF0000000000000)] }] }

def infiniteConnection : Connection := { database := Database.empty.addTable infiniteTable [] }

theorem columns_login : (classOf (timedEvent "login")).columns = ["time", "created_at"] :=
  columns_alone _ (.text "timestamp") rfl

theorem isSound_login : (classOf (timedEvent "login")).IsSound := by
  refine isSound_classOf _ (acceptsEvent_timedEvent "login" Identifier.isUsable_login) (by decide) ?_
  intro field member
  obtain rfl := List.mem_singleton.mp member
  decide

theorem query_login : (classOf (timedEvent "login")).query =
    .rows (.query (rangeQuery "login" ["time", "created_at"] "time")) := by
  rw [EventClass.query, columns_login, show (classOf (timedEvent "login")).timeColumn = timeName from
    timeColumn_entityOf _ (acceptsEvent_timedEvent "login" Identifier.isUsable_login)]
  rfl

/-- A bound beyond the integers of the database overflows on a query that is taken. -/
theorem infiniteConnection_refuses_bound : ∃ compiled,
    compileRaw loginSchema none = .ok compiled ∧
      (EventModule.ofCompiled compiled).Loads bareSession "events.py" "events.py" ∧
      classOf (timedEvent "login") ∈ (EventModule.ofCompiled compiled).classes ∧
      Event.retrieve (classOf (timedEvent "login")) infiniteConnection (.integer 0)
        (.integer 9223372036854775808) = .error (.escaped SqlFault.integerRange.fault) := by
  obtain ⟨made, loads⟩ := compiles_loginSchema
  have listed := mem_classes_loginSchema
  obtain ⟨_, _, _, escapes⟩ := retrieve_reports_or_overflows loginSchema none _ made bareSession
    "events.py" "events.py" loads _ listed infiniteConnection (.integer 0)
    (.integer 9223372036854775808)
  have takes : infiniteConnection.Takes (classOf (timedEvent "login")) :=
    ⟨⟨rfl, rfl⟩, by rw [query_login]; rfl⟩
  exact ⟨_, made, loads, listed,
    (escapes _).mpr (.inl ⟨takes, .inr ⟨⟨.integer 0, rfl⟩, rfl⟩, rfl⟩)⟩

theorem asks_infiniteConnection : infiniteConnection.execute
    (classOf (timedEvent "login")).selectStatement
    (Connection.bindings [.integer 0, .integer 9]) =
      .ok ([[.integer 5, .float (Float.ofBits 0x7FF0000000000000)]], infiniteConnection) := by
  rw [infiniteConnection.execute_query isSound_login _ _ ⟨rfl, rfl⟩, query_login]
  rfl

/-- An infinite number that was stored ends a reader. -/
theorem infiniteConnection_ends_readers : ∃ compiled,
    compileRaw loginSchema none = .ok compiled ∧
      (EventModule.ofCompiled compiled).Loads bareSession "events.py" "events.py" ∧
      (loginAt 5).eventClass ∈ (EventModule.ofCompiled compiled).classes ∧
      Event.retrieve (loginAt 5).eventClass infiniteConnection (.integer 0) (.integer 9) =
        .error (.escaped CodecFault.infinite.fault) ∧
      CodecFault.infinite.fault.kind = .overflow ∧
      (LoadOperation.query (loginAt 5) 0 9).perform infiniteConnection =
        (.error (.unexpected CodecFault.infinite.fault), infiniteConnection) := by
  obtain ⟨made, loads⟩ := compiles_loginSchema
  have escaped : Event.retrieve (loginAt 5).eventClass infiniteConnection (.integer 0)
      (.integer 9) = .error (.escaped CodecFault.infinite.fault) := by
    refine (Event.escapes_of_ok _ _ _ _ isSound_login _ _ _ asks_infiniteConnection).mpr ⟨?_, rfl⟩
    rw [Event.decodedValues, retrieved_login]
    rfl
  exact ⟨_, made, loads, mem_classes_loginSchema, escaped, rfl,
    (Event.perform_query_eq_unexpected_iff _ _ _ _ _).mpr escaped⟩

end Migration

end EventForge
