import EventForge.Proofs.Sql.TableDefinition
import EventForge.Proofs.Sql.RowStatement

/-!
# Rows in a range

A query for some columns of the rows of a table gives these columns of the rows whose value in one
column lies between two parameters, each of them once.
-/

namespace EventForge

namespace Outcome

variable {Fault First : Type}

/-- Choices that all succeed select what they choose. -/
theorem filterM_eq_ok_filter (choose : First → Except Fault Bool) (chosen : First → Bool)
    (items : List First) (each : ∀ item ∈ items, choose item = .ok (chosen item)) :
    items.filterM choose = .ok (items.filter chosen) := by
  have collects : ∀ kept : List First, List.filterAuxM choose items kept =
      .ok ((items.filter chosen).reverse ++ kept) := by
    induction items with
    | nil =>
        intro kept
        rfl
    | cons item items ih =>
        intro kept
        have own := each item (by simp)
        have others := ih fun other member => each other (by simp [member])
        rw [List.filterAuxM, own, ok_bind, others]
        cases found : chosen item <;> simp [found]
  rw [List.filterM, collects, ok_bind]
  simp

end Outcome

open Outcome

namespace SqlTable

/-- The value of a row in the column with a name. -/
def cellOf (table : SqlTable) (row : SqlRow) (name : Text) : Cell :=
  ((table.columnIndex? name).bind fun position => row.cells[position]?).getD .null

theorem columnIndex?_congr (table : SqlTable) {first second : Text} (same : sameName first second = true) :
    table.columnIndex? first = table.columnIndex? second := by
  unfold columnIndex?
  simp only [sameName_comm _ first, sameName_comm _ second, sameName_congr first second _ same]

/-- The first column with a name stands at the index of the name. -/
theorem columnIndex?_of_column? {table : SqlTable} {name : Text} {column : ColumnDefinition}
    (found : table.column? name = some column) :
    ∃ position, table.columnIndex? name = some position ∧
      table.columns[position]? = some column := by
  obtain ⟨same, position, inside, rfl, first⟩ := List.find?_eq_some_iff_getElem.mp found
  exact ⟨position, List.findIdx?_eq_some_iff_getElem.mpr ⟨inside, same, by simpa using first⟩,
    List.getElem?_eq_getElem inside⟩

/-- The place of a column. -/
theorem exists_columnIndex (table : SqlTable) (name : Text) (column : ColumnDefinition)
    (found : table.column? name = some column) :
    ∃ position definition, table.columnIndex? name = some position ∧
      table.columns[position]? = some definition ∧ sameName definition.name name = true := by
  obtain ⟨position, index, columnAt⟩ := columnIndex?_of_column? found
  exact ⟨position, column, index, columnAt, by simpa using List.find?_some found⟩

/-- The frame of a row with some cells. -/
def frame (table : SqlTable) (name : Text) (cells : List Cell) (id : Option Int) : Frame :=
  [{ table := ScopeTable.ofTable table name, cells, id }]

/-- What a name stands for in the frame of a row. -/
theorem find?_frame (table : SqlTable) (sound : table.IsSound) (shown name : Text) (row : SqlRow)
    (id : Option Int) (width : row.cells.length = table.columns.length) (column : ColumnDefinition)
    (found : table.column? name = some column) :
    ∃ definition ∈ table.columns, sameName definition.name name = true ∧
      (table.frame shown row.cells id).find? [name] = .ok (some {
        column := { name := definition.name, affinity := some definition.affinity
                    collation := definition.collation, typeName := definition.listedType }
        cell := table.cellOf row name }) := by
  obtain ⟨position, definition, index, columnAt, same⟩ := exists_columnIndex table name column found
  obtain ⟨cell, cellAt⟩ := table.exists_cell row position definition columnAt width
  have value : table.cellOf row name = cell := by
    simp [cellOf, index, cellAt]
  refine ⟨definition, List.mem_of_getElem? columnAt, same, ?_⟩
  have distinct := ScopeTable.isDistinct_ofTable table shown sound
  have scopeAt : (ScopeTable.ofTable table shown).columns[position]? = some
      { name := definition.name, affinity := some definition.affinity
        collation := definition.collation, typeName := definition.listedType } := by
    simp [ScopeTable.ofTable, columnAt]
  rw [value]
  exact Frame.find?_single _ _ _ (ScopeRow.matching_at _ name false distinct position _ cell scopeAt
    cellAt same)

end SqlTable

/-- The comparison of a cell with a bound, both as integers. -/
def Cell.isBounded (operator : BinaryOperator) (cell bound : Cell) : Cell :=
  Cell.ofTruth? (Cell.compare operator .binary (cell.compared .integer) (bound.compared .integer))

/-- Whether a cell lies between two bounds. -/
def Cell.liesBetween (cell low high : Cell) : Cell :=
  Cell.ofTruth? (Cell.both (cell.isBounded .greaterEqual low).truth?
    (cell.isBounded .lessEqual high).truth?)

/-- An integer lies between two others if it is neither less than the first nor greater than the
second. -/
theorem Cell.liesBetween_integers (value low high : Int) :
    (((Cell.integer value).liesBetween (.integer low) (.integer high)).truth? = some true) ↔
      low ≤ value ∧ value ≤ high := by
  have above : ((Cell.integer value).isBounded .greaterEqual (.integer low)).truth? =
      some (decide (low ≤ value)) := by
    by_cases least : low ≤ value <;> by_cases most : value ≤ low <;>
      simp [isBounded, compared, asNumber, Cell.compare, sameBy, leBy, rank, isNull, numberLe, ratio?,
        ofTruth?, truth?, toNumber, least, most]
    omega
  have below : ((Cell.integer value).isBounded .lessEqual (.integer high)).truth? =
      some (decide (value ≤ high)) := by
    simp [isBounded, compared, asNumber, Cell.compare, leBy, rank, isNull, numberLe, ratio?, ofTruth?,
      truth?, toNumber]
  rw [liesBetween, above, below]
  by_cases least : low ≤ value <;> by_cases most : value ≤ high <;>
    simp [both, ofTruth?, truth?, toNumber, least, most]

namespace Evaluation

theorem affinityAt_column (fuel : Nat) (around : Surroundings) (frame : Frame) (frames : List Frame)
    (name : Text) (quoted : Bool) (found : FoundColumn) (innermost : around.frames = frame :: frames)
    (seen : frame.find? [name] = .ok (some found)) :
    affinityAt (fuel + 1) around (.column [name] quoted) = .ok found.column.affinity := by
  have here : around.find? [name] = .ok (some (.inl found)) := by
    simp [Surroundings.find?, innermost, seen]
  rw [affinityAt]
  simp [here]

theorem collationAt_column (fuel : Nat) (around : Surroundings) (frame : Frame) (frames : List Frame)
    (name : Text) (quoted : Bool) (found : FoundColumn) (innermost : around.frames = frame :: frames)
    (seen : frame.find? [name] = .ok (some found)) :
    collationAt (fuel + 1) around (.column [name] quoted) = .ok found.column.collation := by
  have here : around.find? [name] = .ok (some (.inl found)) := by
    simp [Surroundings.find?, innermost, seen]
  rw [collationAt]
  simp [here]

/-- The comparison of an integer column with a parameter. -/
theorem binaryAt_bound (fuel : Nat) (around : Surroundings) (frame : Frame) (frames : List Frame)
    (name parameter : Text) (found : FoundColumn) (innermost : around.frames = frame :: frames)
    (seen : frame.find? [name] = .ok (some found)) (integer : found.column.affinity = some .integer)
    (plain : found.column.collation = .binary) (bound : Cell)
    (given : valueAt (fuel + 1) around (.parameter parameter) = .ok bound) (operator : BinaryOperator)
    (compares : operator = .greaterEqual ∨ operator = .lessEqual) :
    binaryAt (fuel + 2) around operator (.column [name] false) (.parameter parameter) =
      .ok (found.cell.isBounded operator bound) := by
  have value := valueAt_column fuel around frame frames name false found innermost seen
  have affinity := affinityAt_column fuel around frame frames name false found innermost seen
  have collation := collationAt_column fuel around frame frames name false found innermost seen
  have noAffinity : affinityAt (fuel + 1) around (.parameter parameter) = .ok none := by
    rw [affinityAt]
    all_goals simp
  have noCollation : collationAt (fuel + 1) around (.parameter parameter) = .ok .binary := by
    rw [collationAt]
    all_goals simp
  unfold binaryAt
  rcases compares with rfl | rfl <;>
    simp +decide [SqlExpression.isRow, value, given, affinity, collation, noAffinity, noCollation,
      integer, plain, RowPart.compareTo, Affinity.shared, Cell.isBounded]

/-- The range of a query on a row. -/
theorem valueAt_between (fuel : Nat) (around : Surroundings) (frame : Frame) (frames : List Frame)
    (name lower upper : Text) (found : FoundColumn) (innermost : around.frames = frame :: frames)
    (seen : frame.find? [name] = .ok (some found)) (integer : found.column.affinity = some .integer)
    (plain : found.column.collation = .binary) (low high : Cell)
    (lowGiven : valueAt (fuel + 1) around (.parameter lower) = .ok low)
    (highGiven : valueAt (fuel + 1) around (.parameter upper) = .ok high) :
    valueAt (fuel + 3) around (.between (.column [name] false) (.parameter lower) (.parameter upper)) =
      .ok (found.cell.liesBetween low high) := by
  have above := binaryAt_bound fuel around frame frames name lower found innermost seen integer plain
    low lowGiven .greaterEqual (.inl rfl)
  have below := binaryAt_bound fuel around frame frames name upper found innermost seen integer plain
    high highGiven .lessEqual (.inr rfl)
  rw [valueAt]
  simp only [above, below, ok_bind, pure_eq_ok]
  rfl

/-- What surrounds a query that stands by itself. -/
def topmost (database : Database) (parameters : List (Text × Cell)) (checking : Bool) : Surroundings :=
  { database, parameters, checking }

theorem valueAt_parameter (fuel : Nat) (around : Surroundings) (name : Text) (bound : Cell)
    (place : around.place = none) (given : around.checking = true ∧ bound = .null ∨
      around.checking = false ∧
        around.parameters.find? (fun entry => entry.1 == name) = some (name, bound)) :
    valueAt (fuel + 1) around (.parameter name) = .ok bound := by
  unfold valueAt
  have free : around.refuse .parameters = .ok () := by
    rw [Surroundings.refuse, place]
  rcases given with ⟨checking, rfl⟩ | ⟨checking, found⟩
  · simp [free, checking]
  · simp [free, checking, found]

/-- What a table gives as the source of a query. -/
def tableSource (table : SqlTable) (name : Text) (checking : Bool) : SourceRows where
  unknown := table.frame name (table.columns.map fun _ => .null) none
  frames :=
    if checking then [table.frame name (table.columns.map fun _ => .null) none]
    else table.rows.map fun row => table.frame name row.cells (some row.id)

theorem repeating_nil (frame : Frame) : SourceRows.repeating [] frame = frame := by
  simp [SourceRows.repeating]

/-- A first source gives its own rows. -/
theorem pair_first (next : SourceRows) :
    SourceRows.pair {} { unknown := [], frames := [[]] } next [] (fun _ => .ok true) = .ok next := by
  have agrees : ∀ left right, SourceRows.agree [] left right = true := fun _ _ => rfl
  have all : next.frames.filterM (fun _ => (.ok true : Except SqlRefusal Bool)) = .ok next.frames := by
    have chosen := filterM_eq_ok_filter (fun _ => (.ok true : Except SqlRefusal Bool)) (fun _ => true)
      next.frames fun _ _ => rfl
    rw [chosen, List.filter_eq_self.mpr fun _ _ => rfl]
  simp only [SourceRows.pair, agrees, Bool.not_true, Bool.false_eq_true, if_false, List.mapM_cons,
    List.mapM_nil, List.nil_append, repeating_nil, all, ok_bind, pure_eq_ok, List.flatMap_cons,
    List.flatMap_nil, Bool.and_false, List.append_nil, List.map_id']

theorem sourcesAt_table (fuel : Nat) (database : Database) (parameters : List (Text × Cell))
    (checking : Bool) (name : Text) (table : SqlTable) (found : database.table? name = some table) :
    sourcesAt (fuel + 2) (topmost database parameters checking)
        [.joined {} (.table none name none none) none []] =
      .ok (tableSource table name checking) := by
  have source : sourceAt (fuel + 1) (topmost database parameters checking) (.table none name none none) =
      .ok (tableSource table name checking) := by
    unfold sourceAt
    simp only [topmost, List.find?_nil, Database.isMain, found, Option.isSome_some]
    cases checking <;> simp [tableSource, SqlTable.frame, ScopeTable.unknownRow, ScopeTable.ofTable,
      Function.comp_def]
  unfold sourcesAt
  simp only [List.foldlM_cons, List.foldlM_nil, SqlSource.takesValues, Option.any_none,
    Bool.false_eq_true, if_false, source, ok_bind, List.find?_nil, Bool.false_and, pure_eq_ok,
    pair_first]

/-- The columns of a query that lists names. -/
def namedColumns (names : List Text) : List ResultColumn :=
  names.map fun name => .value (.column [name] false) none name

/-- What a query gives for a name. -/
def namedOutput (fuel : Nat) (name : Text) (found : FoundColumn) : OutputColumn where
  column := { name := found.column.name, affinity := found.column.affinity
              collation := found.column.collation, typeName := found.column.typeName }
  value around := valueAt fuel { around with aliases := [] } (.column [name] false)

theorem outputsAt_named (fuel : Nat) (around : Surroundings) (frame : Frame) (frames : List Frame)
    (unknown : Frame) (names : List Text) (found : Text → FoundColumn)
    (innermost : around.frames = frame :: frames)
    (seen : ∀ name ∈ names, frame.find? [name] = .ok (some (found name))) :
    outputsAt (fuel + 2) around unknown (namedColumns names) =
      .ok (names.map fun name => namedOutput (fuel + 1) name (found name)) := by
  have single : ∀ names : List Text,
      (names.map fun name => [namedOutput (fuel + 1) name (found name)]).flatten =
        names.map fun name => namedOutput (fuel + 1) name (found name) := by
    intro names
    induction names with
    | nil => rfl
    | cons name names ih => rw [List.map_cons, List.flatten_cons, ih, List.map_cons, List.singleton_append]
  unfold outputsAt
  simp only [namedColumns, List.mapM_map]
  rw [mapM_eq_ok_map _ (fun name : Text => [namedOutput (fuel + 1) name (found name)]) names]
  · rw [ok_bind, single]
    rfl
  · intro name member
    have read := seen name member
    have affinity := affinityAt_column fuel around frame frames name false _ innermost read
    have collation := collationAt_column fuel around frame frames name false _ innermost read
    have here : around.find? [name] = .ok (some (.inl (found name))) := by
      simp [Surroundings.find?, innermost, read]
    simp only [Function.comp_apply, affinity, collation, here, ok_bind, pure_eq_ok, Except.toOption,
      Option.getD_some, Option.map_some, Option.getD_none]
    rfl

theorem usesAggregate_column (fuel : Nat) (path : List Text) (quoted : Bool) :
    SqlExpression.usesAggregate fuel (.column path quoted) = false := by
  cases fuel <;> rfl

/-- An index changes no more than the order of rows. -/
theorem orderedBySource_perm (around : Surroundings) (sources : List JoinedSource)
    (condition : Option SqlExpression) (frames : List Frame) :
    (orderedBySource around sources condition frames).Perm frames := by
  unfold orderedBySource
  simp only
  repeat' first
    | exact .refl _
    | exact List.mergeSort_perm _ _
    | split

/-- The rows of a query without groups and order, from what its parts come to on each row. -/
theorem selectAt_plain (fuel : Nat) (around : Surroundings) (names : List Text)
    (sources : List JoinedSource) (condition : SqlExpression) (source : SourceRows)
    (outputs : List OutputColumn) (project : Frame → List Cell) (verdict : Frame → Cell)
    (outside : around.inCondition = false)
    (sourced : sourcesAt fuel around sources = .ok source)
    (listed : outputsAt fuel (around.within source.unknown) source.unknown (namedColumns names) =
      .ok outputs)
    (judged : ∀ frame ∈ (if around.checking then [source.unknown] else source.frames),
      valueAt fuel (around.within frame) condition = .ok (verdict frame))
    (projected : ∀ frame ∈ (if around.checking then [source.unknown] else source.frames),
      outputs.mapM (fun output => output.value (around.within frame)) = .ok (project frame)) :
    selectAt (fuel + 1) around (.select false (namedColumns names) sources (some condition) [] none) [] =
      .ok { columns := outputs.map OutputColumn.column
            rows := (orderedBySource around sources (some condition)
              ((if around.checking then [source.unknown] else source.frames).filter fun frame =>
                (verdict frame).truth? = some true || around.checking)).map project } := by
  have onRow : ∀ frame, { around.within frame with aliases := [] } = around.within frame :=
    fun _ => rfl
  have quiet : ∀ frame, { around.within frame with aliases := [], inCondition := false } =
      around.within frame := by
    intro frame
    rw [← outside]
    rfl
  have ungrouped : ∀ frame, { around.within frame with aliases := [], group := none } =
      around.within frame := fun _ => rfl
  generalize framesEq : (if around.checking then [source.unknown] else source.frames) = frames at *
  have chosen := filterM_eq_ok_filter (fun frame => do
      let cell ← valueAt fuel (around.within frame) condition
      (.ok (cell.truth? = some true || around.checking : Bool) : Except SqlRefusal Bool))
    (fun frame => (verdict frame).truth? = some true || around.checking) frames (by
      intro frame member
      rw [judged frame member]
      rfl)
  have rows := mapM_eq_ok_map (fun frame => do
      let cells ← outputs.mapM fun output => output.value (around.within frame)
      (.ok (cells, ([] : List Cell)) : Except SqlRefusal (List Cell × List Cell)))
    (fun frame => (project frame, [])) (orderedBySource around sources (some condition)
      (frames.filter fun frame => (verdict frame).truth? = some true || around.checking)) (by
      intro frame member
      have listed := (orderedBySource_perm _ _ _ _).mem_iff.mp member
      rw [projected frame (List.mem_filter.mp listed).1]
      rfl)
  have noAliases : names.filterMap (fun _ => (none : Option (Text × SqlExpression))) = [] := by
    simp
  have noAggregate : names.any (fun _ => false) = false := by
    simp
  have noPositions : ∀ clause columns, checkPositions clause columns [] = .ok () := fun _ _ => rfl
  unfold selectAt
  simp only [namedColumns, List.filterMap_map, List.any_map, Function.comp_def, usesAggregate_column,
    noAliases, noAggregate] at listed ⊢
  simp only [sourced, ok_bind, onRow, listed, List.isEmpty_nil, Bool.not_true, Option.isSome_none,
    Bool.or_self, List.any_nil, Bool.false_eq_true, if_false, List.map_nil, List.mapM_nil, pure_eq_ok,
    Option.mapM_none, Bool.not_false, if_true, quiet, framesEq, chosen, List.mapM_map,
    Function.comp_def, noPositions, rows]
  cases checking : around.checking with
  | false =>
      simp only [Bool.false_eq_true, if_false, List.map_map]
      rfl
  | true =>
      have known : source.unknown ∈ frames := by
        rw [← framesEq, checking]
        simp
      simp only [if_true, ungrouped, projected _ known, ok_bind, List.map_map]
      rfl

end Evaluation

/-- What a name stands for in a frame in which it stands for one column. -/
def Frame.seen (frame : Frame) (name : Text) : FoundColumn :=
  match frame.find? [name] with
  | .ok (some found) => found
  | _ => { column := default, cell := .null }

theorem Frame.seen_of_find? {frame : Frame} {name : Text} {found : FoundColumn}
    (stands : frame.find? [name] = .ok (some found)) : frame.seen name = found := by
  rw [seen, stands]

namespace SqlTable

/-- Whether all columns of a table hold integers, and its rows nothing but integers. -/
structure HoldsIntegers (table : SqlTable) : Prop extends table.IsSound where
  integers : ∀ column ∈ table.columns, column.affinity = .integer ∧ column.collation = .binary
  plain : ∀ row ∈ table.rows, ∀ cell ∈ row.cells, cell.isStray = false

theorem seen_frame (table : SqlTable) (holds : table.HoldsIntegers) (shown name : Text) (row : SqlRow)
    (id : Option Int) (width : row.cells.length = table.columns.length)
    (known : (table.column? name).isSome = true) :
    (table.frame shown row.cells id).find? [name] =
        .ok (some ((table.frame shown row.cells id).seen name)) ∧
      ((table.frame shown row.cells id).seen name).cell = table.cellOf row name ∧
      ((table.frame shown row.cells id).seen name).column.affinity = some .integer ∧
      ((table.frame shown row.cells id).seen name).column.collation = .binary := by
  obtain ⟨column, found⟩ := Option.isSome_iff_exists.mp known
  obtain ⟨definition, member, _, stands⟩ := table.find?_frame holds.toIsSound shown name row id width
    column found
  obtain ⟨affinity, collation⟩ := holds.integers definition member
  have seen := Frame.seen_of_find? stands
  rw [seen]
  exact ⟨stands, rfl, congrArg some affinity, collation⟩

/-- The cells of a row in the columns with some names are plain. -/
theorem isStray_cellOf (table : SqlTable) (row : SqlRow) (name : Text)
    (plain : ∀ cell ∈ row.cells, cell.isStray = false) : (table.cellOf row name).isStray = false := by
  unfold cellOf
  cases index : table.columnIndex? name with
  | none => rfl
  | some position =>
      rw [Option.bind_some]
      cases found : row.cells[position]? with
      | none => rfl
      | some cell => exact plain cell (List.mem_of_getElem? found)

end SqlTable

namespace Database

/-- A row that a source is looked at through: one of the table, or the one of which nothing is known. -/
structure SeesRow (table : SqlTable) (name : Text) (frame : Frame) (row : SqlRow) : Prop where
  shown : ∃ id, frame = table.frame name row.cells id
  width : row.cells.length = table.columns.length
  plain : ∀ cell ∈ row.cells, cell.isStray = false

theorem exists_seesRow (table : SqlTable) (holds : table.HoldsIntegers) (name : Text) (checking : Bool) :
    ∀ frame ∈ (if checking then [(Evaluation.tableSource table name checking).unknown]
      else (Evaluation.tableSource table name checking).frames), ∃ row, SeesRow table name frame row := by
  intro frame member
  cases checking with
  | true =>
      have same : frame = _ := List.mem_singleton.mp member
      refine ⟨{ id := 0, cells := table.columns.map fun _ => .null }, ⟨none, same⟩, by simp, ?_⟩
      intro cell cellMember
      obtain ⟨_, _, rfl⟩ := List.mem_map.mp cellMember
      rfl
  | false =>
      obtain ⟨row, rowMember, rfl⟩ := List.mem_map.mp member
      exact ⟨row, ⟨some row.id, rfl⟩, holds.cells row rowMember, holds.plain row rowMember⟩

section Range

variable {table : SqlTable} {name : Text} {frame : Frame} {row : SqlRow}

theorem SeesRow.find?_seen (sees : SeesRow table name frame row) (holds : table.HoldsIntegers)
    {wanted : Text} (known : (table.column? wanted).isSome = true) :
    frame.find? [wanted] = .ok (some (frame.seen wanted)) := by
  obtain ⟨⟨id, rfl⟩, width, _⟩ := sees
  exact (table.seen_frame holds name wanted row id width known).1

theorem SeesRow.cell_seen (sees : SeesRow table name frame row) (holds : table.HoldsIntegers)
    {wanted : Text} (known : (table.column? wanted).isSome = true) :
    (frame.seen wanted).cell = table.cellOf row wanted := by
  obtain ⟨⟨id, rfl⟩, width, _⟩ := sees
  exact (table.seen_frame holds name wanted row id width known).2.1

/-- On a row the condition says where the cell of the time lies. -/
theorem SeesRow.valueAt_between (sees : SeesRow table name frame row) (holds : table.HoldsIntegers)
    {time : Text} (known : (table.column? time).isSome = true) (fuel : Nat) (around : Surroundings)
    {lower upper : Text} {low high : Cell}
    (lowGiven : Evaluation.valueAt (fuel + 1) (around.within frame) (.parameter lower) = .ok low)
    (highGiven : Evaluation.valueAt (fuel + 1) (around.within frame) (.parameter upper) = .ok high) :
    Evaluation.valueAt (fuel + 3) (around.within frame)
        (.between (.column [time] false) (.parameter lower) (.parameter upper)) =
      .ok ((frame.seen time).cell.liesBetween low high) := by
  obtain ⟨⟨id, rfl⟩, width, _⟩ := sees
  obtain ⟨stands, _, affinity, collation⟩ := table.seen_frame holds name time row id width known
  exact Evaluation.valueAt_between fuel (around.within _) _ _ time lower upper _ rfl stands affinity
    collation low high lowGiven highGiven

/-- On a row the columns of a query for names show the cells under these names. -/
theorem SeesRow.mapM_value (sees : SeesRow table name frame row) (holds : table.HoldsIntegers)
    {names : List Text} (known : ∀ name ∈ names, (table.column? name).isSome = true) (fuel : Nat)
    (around : Surroundings) (found : Text → FoundColumn) :
    (names.map fun name => Evaluation.namedOutput (fuel + 1) name (found name)).mapM
        (fun output => output.value (around.within frame)) =
      .ok (names.map fun name => (frame.seen name).cell) := by
  rw [List.mapM_map]
  refine mapM_eq_ok_map _ _ names fun wanted member => ?_
  exact Evaluation.valueAt_column fuel _ _ _ wanted false _ rfl
    (sees.find?_seen holds (known wanted member))

/-- The rows that a table shows in a range are its rows in the range. -/
theorem map_filter_frames (holds : table.HoldsIntegers) (name : Text) {names : List Text} {time : Text}
    (known : ∀ name ∈ names, (table.column? name).isSome = true)
    (timeKnown : (table.column? time).isSome = true) (low high : Cell) :
    (((table.rows.map fun row => table.frame name row.cells (some row.id)).filter fun frame =>
      ((frame.seen time).cell.liesBetween low high).truth? = some true).map fun frame =>
        names.map fun name => (frame.seen name).cell) =
      (table.rows.filter fun row =>
        ((table.cellOf row time).liesBetween low high).truth? = some true).map fun row =>
          names.map (table.cellOf row) := by
  have sees : ∀ row ∈ table.rows, SeesRow table name (table.frame name row.cells (some row.id)) row :=
    fun row member => ⟨⟨some row.id, rfl⟩, holds.cells row member, holds.plain row member⟩
  rw [List.filter_map, List.map_map, List.filter_congr (q := fun row =>
    ((table.cellOf row time).liesBetween low high).truth? = some true)]
  · refine List.map_congr_left fun row member => ?_
    have shown := sees row (List.mem_filter.mp member).1
    exact List.map_congr_left fun wanted wantedMember =>
      shown.cell_seen holds (known wanted wantedMember)
  · intro row member
    simp only [Function.comp_apply, (sees row member).cell_seen holds timeKnown]

end Range

/-- The query for a range of rows of a table of integers.  When it is only checked its parameters are
missing. -/
theorem evaluate_range (database : Database) (parameters : List (Text × Cell)) (checking : Bool)
    (name : Text) (table : SqlTable) (found : database.table? name = some table)
    (holds : table.HoldsIntegers) (names : List Text) (time : Text)
    (known : ∀ name ∈ names, (table.column? name).isSome = true)
    (timeKnown : (table.column? time).isSome = true) (low high : Cell)
    (lower : checking = true ∧ low = .null ∨ checking = false ∧
      parameters.find? (fun entry => entry.1 == ("1" : Text)) = some (("1" : Text), low))
    (upper : checking = true ∧ high = .null ∨ checking = false ∧
      parameters.find? (fun entry => entry.1 == ("2" : Text)) = some (("2" : Text), high)) :
    ∃ labels rows, (SqlReader.rangeQuery name names time).evaluate
        (Evaluation.topmost database parameters checking) = .ok { columns := labels, rows } ∧
      (∀ row ∈ rows, ∀ cell ∈ row, cell.isStray = false) ∧
      (checking = false → rows.Perm ((table.rows.filter fun row =>
        ((table.cellOf row time).liesBetween low high).truth? = some true).map fun row =>
          names.map (table.cellOf row))) := by
  obtain ⟨fuel, depth⟩ : ∃ fuel, evaluationDepth = fuel + 5 := ⟨evaluationDepth - 5, rfl⟩
  let around := Evaluation.topmost database parameters checking
  let source := Evaluation.tableSource table name checking
  have seesRow := exists_seesRow table holds name checking
  have unknownSees : SeesRow table name source.unknown
      { id := 0, cells := table.columns.map fun _ => .null } := by
    refine ⟨⟨none, rfl⟩, by simp, ?_⟩
    intro cell member
    obtain ⟨_, _, rfl⟩ := List.mem_map.mp member
    rfl
  have sourced := Evaluation.sourcesAt_table (fuel + 1) database parameters checking name table found
  have listed := Evaluation.outputsAt_named (fuel + 1) (around.within source.unknown) source.unknown []
    source.unknown names (fun name => source.unknown.seen name) rfl
    fun wanted member => unknownSees.find?_seen holds (known wanted member)
  have judged : ∀ frame ∈ (if around.checking then [source.unknown] else source.frames),
      Evaluation.valueAt (fuel + 3) (around.within frame)
        (.between (.column [time] false) (.parameter "1") (.parameter "2")) =
          .ok ((frame.seen time).cell.liesBetween low high) := by
    intro frame member
    obtain ⟨row, sees⟩ := seesRow frame member
    exact sees.valueAt_between holds timeKnown fuel around
      (Evaluation.valueAt_parameter fuel (around.within _) "1" low rfl lower)
      (Evaluation.valueAt_parameter fuel (around.within _) "2" high rfl upper)
  have projected : ∀ frame ∈ (if around.checking then [source.unknown] else source.frames),
      (names.map fun name => Evaluation.namedOutput (fuel + 2) name (source.unknown.seen name)).mapM
        (fun output => output.value (around.within frame)) =
          .ok (names.map fun name => (frame.seen name).cell) := by
    intro frame member
    obtain ⟨row, sees⟩ := seesRow frame member
    exact sees.mapM_value holds known (fuel + 1) around _
  have selected := Evaluation.selectAt_plain (fuel + 3) around names
    [.joined {} (.table none name none none) none []]
    (.between (.column [time] false) (.parameter "1") (.parameter "2")) source _ _ _ rfl
    sourced listed judged projected
  have evaluated : (SqlReader.rangeQuery name names time).evaluate around =
      Evaluation.selectAt (fuel + 4) around
        (.select false (Evaluation.namedColumns names)
          [.joined {} (.table none name none none) none []]
          (some (.between (.column [time] false) (.parameter "1") (.parameter "2"))) [] none) [] := by
    rw [SqlQuery.evaluate, depth]
    rfl
  refine ⟨_, _, evaluated.trans selected, ?_, ?_⟩
  · intro cells member cell cellMember
    obtain ⟨frame, frameMember, rfl⟩ := List.mem_map.mp member
    have chosen := (Evaluation.orderedBySource_perm _ _ _ _).mem_iff.mp frameMember
    obtain ⟨row, sees⟩ := seesRow frame (List.mem_filter.mp chosen).1
    obtain ⟨wanted, wantedMember, rfl⟩ := List.mem_map.mp cellMember
    rw [sees.cell_seen holds (known wanted wantedMember)]
    exact table.isStray_cellOf row wanted sees.plain
  · rintro rfl
    refine ((Evaluation.orderedBySource_perm _ _ _ _).map _).trans (.of_eq ?_)
    rw [← map_filter_frames holds name known timeKnown low high]
    simp only [around, Evaluation.topmost, Bool.or_false]
    rfl

/-- Rows of cells that can all be read. -/
theorem firstStray?_eq_none (labels : List ScopeColumn) (rows : List (List Cell))
    (plain : ∀ row ∈ rows, ∀ cell ∈ row, cell.isStray = false) :
    ResultTable.firstStray? { columns := labels, rows } = none := by
  unfold ResultTable.firstStray?
  rw [List.findSome?_eq_none_iff]
  intro row member
  rw [List.find?_eq_none]
  intro entry entryMember
  simp [plain row member entry.2 (List.of_mem_zip entryMember).2]

/-- The rows that the query for a range gives. -/
theorem performOnRows_range (database : Database) (parameters : List (Text × Cell)) (checking : Bool)
    (name : Text) (table : SqlTable) (found : database.table? name = some table)
    (holds : table.HoldsIntegers) (names : List Text) (time : Text)
    (known : ∀ name ∈ names, (table.column? name).isSome = true)
    (timeKnown : (table.column? time).isSome = true) (low high : Cell)
    (lower : checking = true ∧ low = .null ∨ checking = false ∧
      parameters.find? (fun entry => entry.1 == ("1" : Text)) = some (("1" : Text), low))
    (upper : checking = true ∧ high = .null ∨ checking = false ∧
      parameters.find? (fun entry => entry.1 == ("2" : Text)) = some (("2" : Text), high)) :
    ∃ rows, database.performOnRows parameters checking
        (.query (SqlReader.rangeQuery name names time)) = .ok (rows, database) ∧
      (checking = false → rows.Perm ((table.rows.filter fun row =>
        ((table.cellOf row time).liesBetween low high).truth? = some true).map fun row =>
          names.map (table.cellOf row))) := by
  obtain ⟨labels, rows, evaluated, plain, chosen⟩ := database.evaluate_range parameters checking name
    table found holds names time known timeKnown low high lower upper
  have evaluated : (SqlReader.rangeQuery name names time).evaluate { database, parameters, checking } =
      .ok { columns := labels, rows } := evaluated
  refine ⟨rows, ?_, chosen⟩
  simp only [performOnRows, evaluated, firstStray?_eq_none labels rows plain, ok_bind, pure_eq_ok]

end Database

end EventForge
