import EventForge.Proofs.Outcome
import EventForge.Proofs.Sql.Connection
import EventForge.Proofs.Sql.TableDefinition

/-!
# Definitions that add

A table that is made has no rows, whatever its elements are.  A column that is added behind the others
leaves every value that is kept where it was.
-/

/-!
## What definitions add

Making a table or an index and adding a plain column leave every table, column and index where it
was, and every value that is kept with a row as it was.  New columns hold nothing in the rows that
are there, and new tables have no rows.
-/

namespace EventForge

/-- Whether a row of a table with some columns goes on as a row with further columns. -/
structure SqlRow.Grows (columns added : List ColumnDefinition) (old new : SqlRow) : Prop where
  id : new.id = old.id
  kept : ∀ (position : Nat) (column : ColumnDefinition) (cell : Cell),
    columns[position]? = some column → column.isKept = true → old.cells[position]? = some cell →
      new.cells[position]? = some cell
  width : old.cells.length = columns.length → new.cells.length = (columns ++ added).length
  nulls : old.cells.length = columns.length → ∀ (position : Nat) (cell : Cell),
    columns.length ≤ position → new.cells[position]? = some cell → cell = .null

/-- Whether a table goes on as one with further columns behind its own. -/
structure SqlTable.GrowsBy (added : List ColumnDefinition) (old new : SqlTable) : Prop where
  same : new = { old with columns := old.columns ++ added, rows := new.rows }
  kept : ∀ column ∈ added, column.isKept = true
  count : new.rows.length = old.rows.length
  rows : ∀ (position : Nat) (row grown : SqlRow), old.rows[position]? = some row →
    new.rows[position]? = some grown → row.Grows old.columns added grown

/-- Whether a table goes on, with all its columns and rows. -/
def SqlTable.Grows (old new : SqlTable) : Prop := ∃ added, old.GrowsBy added new

/-- Whether all that a database holds goes on, and new tables have columns and no rows. -/
structure Database.Grows (old new : Database) : Prop where
  tables : ∀ name table, old.table? name = some table →
    ∃ grown, new.table? name = some grown ∧ table.Grows grown
  fresh : ∀ name table, old.table? name = none → new.table? name = some table →
    table.rows = [] ∧ table.givenColumns ≠ []
  indexes : old.indexes <+: new.indexes
  views : new.views = old.views
  triggers : new.triggers = old.triggers

namespace SqlRow.Grows

theorem refl (columns : List ColumnDefinition) (row : SqlRow) : row.Grows columns [] row where
  id := rfl
  kept _ _ _ _ _ found := found
  width width := by simp [width]
  nulls width position cell behind found := by
    obtain ⟨short, _⟩ := List.getElem?_eq_some_iff.mp found
    omega

theorem trans {columns first second : List ColumnDefinition} {old middle new : SqlRow}
    (keptFirst : ∀ column ∈ first, column.isKept = true) (lower : old.Grows columns first middle)
    (upper : middle.Grows (columns ++ first) second new) :
    old.Grows columns (first ++ second) new where
  id := upper.id.trans lower.id
  kept position column cell columnAt isKept cellAt := by
    refine upper.kept position column cell ?_ isKept (lower.kept position column cell columnAt isKept
      cellAt)
    obtain ⟨short, _⟩ := List.getElem?_eq_some_iff.mp columnAt
    rw [List.getElem?_append_left short, columnAt]
  width width := by rw [upper.width (lower.width width), List.append_assoc]
  nulls width position cell behind found := by
    have middleWidth := lower.width width
    by_cases inside : position < (columns ++ first).length
    · -- The value stands in a column that was added first, and is kept since then.
      have early : position - columns.length < first.length := by
        rw [List.length_append] at inside
        omega
      have columnAt : (columns ++ first)[position]? = some first[position - columns.length] := by
        rw [List.getElem?_append_right behind, List.getElem?_eq_getElem early]
      have middleAt : middle.cells[position]? = some middle.cells[position] :=
        List.getElem?_eq_getElem (by omega)
      have isNull := lower.nulls width position _ behind middleAt
      have newAt := upper.kept position _ _ columnAt (keptFirst _ (List.getElem_mem early)) middleAt
      rw [found, isNull] at newAt
      exact Option.some.inj newAt
    · exact upper.nulls middleWidth position cell (by omega) found

end SqlRow.Grows

/-- The columns that values can be given for stay, in front of others. -/
theorem SqlTable.GrowsBy.given {added : List ColumnDefinition} {old new : SqlTable}
    (grows : old.GrowsBy added new) : old.givenColumns <+: new.givenColumns := by
  have columns : new.columns = old.columns ++ added := congrArg SqlTable.columns grows.same
  rw [givenColumns, givenColumns, columns, List.filter_append]
  exact List.prefix_append _ _

namespace SqlTable.Grows

theorem given {old new : SqlTable} (grows : old.Grows new) (inhabited : old.givenColumns ≠ []) :
    new.givenColumns ≠ [] := by
  obtain ⟨added, grows⟩ := grows
  intro none
  have given := grows.given
  rw [none] at given
  exact inhabited (List.prefix_nil.mp given)

theorem refl (table : SqlTable) : table.Grows table := by
  refine ⟨[], by rw [List.append_nil], by simp, rfl, ?_⟩
  intro position row grown rowAt grownAt
  rw [rowAt] at grownAt
  obtain rfl := Option.some.inj grownAt
  exact .refl _ _

theorem trans {old middle new : SqlTable} (lower : old.Grows middle) (upper : middle.Grows new) :
    old.Grows new := by
  obtain ⟨first, lower⟩ := lower
  obtain ⟨second, upper⟩ := upper
  have columns : middle.columns = old.columns ++ first := congrArg SqlTable.columns lower.same
  refine ⟨first ++ second, ?_, ?_, upper.count.trans lower.count, ?_⟩
  · rw [upper.same, columns, ← List.append_assoc]
    rw [lower.same]
  · intro column member
    exact (List.mem_append.mp member).elim (lower.kept column) (upper.kept column)
  · intro position row grown rowAt grownAt
    obtain ⟨short, _⟩ := List.getElem?_eq_some_iff.mp rowAt
    have inside : position < middle.rows.length := by rw [lower.count]; exact short
    have middleAt : middle.rows[position]? = some middle.rows[position] :=
      List.getElem?_eq_getElem inside
    have grows := upper.rows position _ grown middleAt grownAt
    rw [columns] at grows
    exact (lower.rows position row _ rowAt middleAt).trans lower.kept grows

end SqlTable.Grows

namespace Database.Grows

theorem refl (database : Database) : database.Grows database where
  tables name table found := ⟨table, found, .refl table⟩
  fresh name table absent found := by
    rw [absent] at found
    cases found
  indexes := List.prefix_refl _
  views := rfl
  triggers := rfl

theorem trans {old middle new : Database} (lower : old.Grows middle) (upper : middle.Grows new) :
    old.Grows new where
  tables name table found := by
    obtain ⟨grown, foundGrown, grows⟩ := lower.tables name table found
    obtain ⟨last, foundLast, growsOn⟩ := upper.tables name grown foundGrown
    exact ⟨last, foundLast, grows.trans growsOn⟩
  fresh name table absent found := by
    cases between : middle.table? name with
    | none => exact upper.fresh name table between found
    | some made =>
        obtain ⟨noRows, given⟩ := lower.fresh name made absent between
        obtain ⟨grown, foundGrown, grows⟩ := upper.tables name made between
        rw [found] at foundGrown
        obtain rfl := Option.some.inj foundGrown
        refine ⟨?_, grows.given given⟩
        obtain ⟨_, growsBy⟩ := grows
        rw [← List.length_eq_zero_iff, growsBy.count, noRows, List.length_nil]
  indexes := lower.indexes.trans upper.indexes
  views := upper.views.trans lower.views
  triggers := upper.triggers.trans lower.triggers

end Database.Grows

/-!
## Added columns and new tables
-/

open Outcome

namespace SqlTable

/-- Calculating the generated columns of a row leaves the values of the others and those that are
known already. -/
theorem kept_calculatedFrom (table : SqlTable) (fuel : Nat) (known : List Text) (row result : SqlRow)
    (made : table.calculatedFrom fuel known row = .ok result) :
    result.id = row.id ∧
      (row.cells.length = table.columns.length → result.cells.length = row.cells.length) ∧
      ∀ (position : Nat) (column : ColumnDefinition) (cell : Cell),
        table.columns[position]? = some column →
        column.generated = none ∨ known.any (sameName column.name) = true →
        row.cells[position]? = some cell → result.cells[position]? = some cell := by
  induction fuel generalizing known row with
  | zero =>
      obtain rfl := Except.ok.inj made
      exact ⟨rfl, fun _ => rfl, fun _ _ _ _ _ found => found⟩
  | succ fuel ih =>
      unfold calculatedFrom at made
      obtain ⟨entries, computed, made⟩ := (bind_eq_ok_iff _ _ _).mp made
      obtain ⟨length, each⟩ := mapM_positions _ _ _ computed
      have width : row.cells.length = table.columns.length →
          (entries.map fun entry => entry.1).length = row.cells.length := by
        intro same
        simp [length, same]
      have kept : ∀ (position : Nat) (column : ColumnDefinition) (cell : Cell),
          table.columns[position]? = some column →
          column.generated = none ∨ known.any (sameName column.name) = true →
          row.cells[position]? = some cell →
          (entries.map fun entry => entry.1)[position]? = some cell := by
        intro position column cell columnAt isKept cellAt
        have pairAt : (table.columns.zip row.cells)[position]? = some (column, cell) := by
          rw [List.getElem?_zip_eq_some]
          exact ⟨columnAt, cellAt⟩
        obtain ⟨short, _⟩ := List.getElem?_eq_some_iff.mp pairAt
        have entryAt : entries[position]? = some entries[position] :=
          List.getElem?_eq_getElem (by rw [length]; exact short)
        have own := each position _ _ pairAt entryAt
        rw [List.getElem?_map, entryAt, Option.map_some]
        cases generated : column.generated with
        | none =>
            simp only [generated, pure_eq_ok, Except.ok.injEq] at own
            rw [← own]
        | some value =>
            have isKnown := isKept.resolve_left (by simp [generated])
            simp only [generated, isKnown, Bool.true_or, if_true, pure_eq_ok, Except.ok.injEq] at own
            rw [← own]
      simp only [throw_eq_error, error_bind] at made
      by_cases calm : (entries.filterMap fun entry => entry.2).isEmpty = true
      · simp only [calm, if_true] at made
        split at made
        · cases made
        · obtain rfl := Except.ok.inj made
          exact ⟨rfl, width, kept⟩
      · simp only [calm] at made
        obtain ⟨id, widthRest, keptRest⟩ := ih _ _ made
        refine ⟨id, ?_, ?_⟩
        · intro same
          rw [widthRest ((width same).trans same), width same]
        · intro position column cell columnAt isKept cellAt
          refine keptRest position column cell columnAt ?_
            (kept position column cell columnAt isKept cellAt)
          refine isKept.imp_right fun isKnown => ?_
          rw [List.any_append, isKnown, Bool.true_or]

end SqlTable

/-- A table with a further column. -/
def SqlTable.withColumn (table : SqlTable) (column : Text × Text) : SqlTable :=
  { table with columns := table.columns ++ [.plain column] }

namespace Database

theorem of_alterable {database : Database} {name : ObjectName} {onView : Text → SqlRefusal}
    {found : SqlTable} (altered : database.alterable name onView = .ok found) :
    database.table? name.name = some found ∧ isReserved found.name = false := by
  unfold alterable at altered
  simp only [throw_eq_error, error_bind] at altered
  split at altered
  · cases altered
  · split at altered
    · rename_i table _ tableAt
      split at altered
      · cases altered
      · rename_i free
        obtain rfl := Except.ok.inj altered
        exact ⟨tableAt, by simpa using free⟩
    · cases altered
    · split at altered
      · cases altered
      · split at altered <;> cases altered

theorem of_addColumn {database new : Database} {name : ObjectName} {column : Text × Text}
    {isOpen : Bool}
    (made : database.addColumn name [.column column.1 column.2] none isOpen = .ok new) :
    ∃ found rows, database.table? name.name = some found ∧ isReserved found.name = false ∧
      found.column? column.1 = none ∧ 
      found.rows.mapM (fun row => newColumnValue (.plain column) row (found.withColumn column)) =
        .ok rows ∧
      new = database.update found.name fun _ => { found.withColumn column with rows } := by
  unfold addColumn at made
  simp only [throw_eq_error, error_bind] at made
  split at made
  · cases made
  · split at made
    · cases made
    · obtain ⟨found, altered, made⟩ := (bind_eq_ok_iff _ _ _).mp made
      obtain ⟨tableAt, free⟩ := of_alterable altered
      obtain ⟨draft, drafted, made⟩ := (bind_eq_ok_iff _ _ _).mp made
      have taken : (found.column? column.1).isSome = false ∧
          draft = { table := { found.withColumn column with primary := [], checks := [] } } := by
        rw [List.foldlM_cons] at drafted
        obtain ⟨drawn, added, ended⟩ := (bind_eq_ok_iff _ _ _).mp drafted
        obtain rfl : drawn = draft := Except.ok.inj ended
        simp only [TableDraft.add] at added
        split at added
        · cases added
        · rename_i absent
          exact ⟨Bool.eq_false_iff.mpr absent, (Except.ok.inj added).symm⟩
      obtain ⟨absent, rfl⟩ := taken
      have last : ({ table := { found.withColumn column with primary := [], checks := [] } } :
          TableDraft).last? = some (.plain column) := by
        simp [TableDraft.last?, SqlTable.withColumn]
      simp only [last] at made
      obtain ⟨_, _, made⟩ := (bind_eq_ok_iff _ _ _).mp made
      split at made
      · cases made
      · split at made
        · cases made
        · obtain ⟨rows, calculated, made⟩ := (bind_eq_ok_iff _ _ _).mp made
          obtain ⟨_, _, made⟩ := (bind_eq_ok_iff _ _ _).mp made
          have whole : (found.withColumn column) =
              { found.withColumn column with checks := found.checks ++ [] } := by
            simp [SqlTable.withColumn]
          refine ⟨found, rows, tableAt, free, by simpa using absent, ?_, ?_⟩
          · rw [whole]
            exact calculated
          · rw [← Except.ok.inj made, whole]
            rfl
end Database

@[simp] theorem SqlTable.store_null (column : ColumnDefinition) : store column .null = .null := by
  unfold store Cell.stored
  cases column.affinity <;> rfl

/-- A row that gets a plain column goes on as a row with nothing in it. -/
theorem grows_newColumnValue {table : SqlTable} {column : Text × Text} {row grown : SqlRow}
    (made : Database.newColumnValue (.plain column) row (table.withColumn column) = .ok grown) :
    row.Grows table.columns [.plain column] grown := by
  have longer : grown = { row with cells := row.cells ++ [.null] } ∨
      (table.withColumn column).calculatedFrom ((table.withColumn column).columns.length + 1)
        (((table.withColumn column).columns.filter ColumnDefinition.isKept).map fun column =>
          column.name) { row with cells := row.cells ++ [.null] } = .ok grown := by
    unfold Database.newColumnValue at made
    simp only [ColumnDefinition.plain, Option.bind_none, Option.getD_none, SqlTable.store_null] at made
    split at made
    · exact .inl (Except.ok.inj made).symm
    · exact .inr made
  have columns : (table.withColumn column).columns = table.columns ++ [.plain column] := rfl
  rcases longer with rfl | calculated
  · constructor
    · rfl
    · intro position definition cell columnAt isKept cellAt
      obtain ⟨short, _⟩ := List.getElem?_eq_some_iff.mp cellAt
      rw [List.getElem?_append_left short, cellAt]
    · intro width
      simp [width]
    · intro width position cell behind found
      rw [List.getElem?_append_right (by rw [width]; exact behind)] at found
      obtain ⟨_, same⟩ := List.getElem?_eq_some_iff.mp found
      simpa using same.symm
  · obtain ⟨id, width, kept⟩ := SqlTable.kept_calculatedFrom _ _ _ _ _ calculated
    rw [columns] at width kept
    constructor
    · exact id
    · intro position definition cell columnAt isKept cellAt
      obtain ⟨short, _⟩ := List.getElem?_eq_some_iff.mp columnAt
      obtain ⟨inside, _⟩ := List.getElem?_eq_some_iff.mp cellAt
      refine kept position definition cell ?_ (.inr ?_) ?_
      · rw [List.getElem?_append_left short, columnAt]
      · rw [List.any_eq_true]
        refine ⟨definition.name, List.mem_map.mpr ⟨definition, ?_, rfl⟩, sameName_self _⟩
        exact List.mem_filter.mpr
          ⟨List.mem_append_left _ (List.mem_of_getElem? columnAt), isKept⟩
      · rw [List.getElem?_append_left inside, cellAt]
    · intro same
      rw [width (by simp [same])]
      simp [same]
    · intro same position cell behind found
      have size : grown.cells.length = table.columns.length + 1 := by
        rw [width (by simp [same])]
        simp [same]
      obtain ⟨inside, _⟩ := List.getElem?_eq_some_iff.mp found
      obtain rfl : position = table.columns.length := by omega
      have null := kept table.columns.length (.plain column) .null (by simp) (.inl rfl)
        (by rw [← same]; simp)
      rw [found] at null
      exact Option.some.inj null

namespace Database

/-- The first table with a name is the changed one if it is the one that changes. -/
theorem table?_update (database : Database) (changed : Text) (change : SqlTable → SqlTable)
    (keeps : ∀ table, sameName table.name changed = true →
      sameName (change table).name changed = true) (name : Text) :
    (database.update changed change).table? name =
      (database.table? name).map fun table =>
        if sameName table.name changed then change table else table := by
  unfold table? update
  rw [List.find?_map]
  congr 1
  refine congrFun (congrArg List.find? (funext fun table => ?_)) _
  simp only [Function.comp_apply]
  split
  · rename_i same
    rw [sameName_congr _ _ name (keeps table same), sameName_congr _ _ name same]
  · rfl

/-- The other tables stay. -/
theorem table?_update_other (database : Database) (changed : Text) (change : SqlTable → SqlTable)
    (keeps : ∀ table, sameName table.name changed = true →
      sameName (change table).name changed = true) {name : Text}
    (apart : sameName changed name = false) :
    (database.update changed change).table? name = database.table? name := by
  rw [table?_update database changed change keeps name]
  cases found : database.table? name with
  | none => rfl
  | some table =>
      rw [Option.map_some, sameName_congr _ _ _ (table?_some _ _ _ found), sameName_comm, apart,
        if_neg Bool.false_ne_true]

/-- A table that goes on in its place in a database. -/
theorem grows_update {database : Database} {found grown : SqlTable} {name : Text}
    (tableAt : database.table? name = some found) (same : grown.name = found.name)
    (grows : found.Grows grown) : database.Grows (database.update found.name fun _ => grown) := by
  have lookup := table?_update database found.name (fun _ => grown) fun _ _ => by
    rw [same, sameName_self]
  constructor
  · intro other table otherAt
    refine ⟨if sameName table.name found.name then grown else table,
      (lookup other).trans (by rw [otherAt]; rfl), ?_⟩
    split
    · rename_i own
      have isFound : database.table? other = database.table? name := by
        have sameOther : other.toAsciiLower = name.toAsciiLower := by
          rw [← (sameName_iff _ _).mp (table?_some database other table otherAt),
            ← (sameName_iff _ _).mp (table?_some database name found tableAt)]
          exact (sameName_iff _ _).mp own
        unfold table? sameName
        rw [sameOther]
      rw [otherAt, tableAt] at isFound
      obtain rfl := Option.some.inj isFound
      exact grows
    · exact .refl table
  · intro other table absent found
    rw [lookup other, absent] at found
    cases found
  · exact List.prefix_refl _
  · rfl
  · rfl

/-- A table goes on if each of its rows gets the value of a new plain column. -/
theorem growsBy_newColumn {found : SqlTable} {column : Text × Text} {rows : List SqlRow}
    (calculated : found.rows.mapM (fun row =>
      newColumnValue (.plain column) row (found.withColumn column)) = .ok rows) :
    found.GrowsBy [.plain column] { found.withColumn column with rows } := by
  obtain ⟨count, each⟩ := mapM_positions _ _ _ calculated
  refine ⟨rfl, ?_, count, ?_⟩
  · intro definition member
    rw [List.mem_singleton.mp member]
    rfl
  · intro position row grown rowAt grownAt
    exact grows_newColumnValue (each position row grown rowAt grownAt)

/-- Adding a plain column leaves what there is. -/
theorem grows_addColumn {database new : Database} {name : ObjectName} {column : Text × Text}
    {isOpen : Bool}
    (made : database.addColumn name [.column column.1 column.2] none isOpen = .ok new) :
    database.Grows new := by
  obtain ⟨found, rows, tableAt, _, _, calculated, rfl⟩ := of_addColumn made
  exact grows_update tableAt rfl ⟨_, growsBy_newColumn calculated⟩

end Database

/-- The index that a text makes on a table. -/
def IndexText.indexOn (text : IndexText) (table : SqlTable) : SqlIndex :=
  { name := text.name.name, table := table.name
    terms := text.terms.map (TableDraft.indexTerm table), unique := text.unique
    condition := text.condition }

namespace Database

/-- Making an index adds one whose terms suit the table, unless there is one with its name already. -/
theorem of_createIndex {database new : Database} {text : IndexText}
    (made : database.createIndex text = .ok new) :
    ∃ table, database.table? text.table = some table ∧
      ((database.index? text.name.name).isSome = true ∧ new = database ∨
        (∀ term ∈ (text.indexOn table).terms, table.checkRule .indexes term.value = .ok ()) ∧
          new = { database with indexes := database.indexes ++ [text.indexOn table] }) := by
  have goesOn : Yields (fun new => ∃ table, database.table? text.table = some table ∧
      ((database.index? text.name.name).isSome = true ∧ new = database ∨
        (∀ term ∈ (text.indexOn table).terms, table.checkRule .indexes term.value = .ok ()) ∧
          new = { database with indexes := database.indexes ++ [text.indexOn table] }))
      (database.createIndex text) := by
    unfold createIndex
    simp only [throw_eq_error, error_bind, pure_eq_ok]
    -- The values are found among the branches by their form, before any of them is unfolded.
    repeat' first
      | with_reducible exact yields_error _ _
      | with_reducible refine yields_bind fun _ _ => ?_
      | with_reducible refine yields_ok ⟨_, ‹_›, ?_⟩
      | with_reducible refine yields_ite (fun _ => ?_) fun _ => ?_
      | split
    all_goals first
      | exact .inl ⟨‹_›, rfl⟩
      | exact .inr
          ⟨of_forIn_eq_ok _ (fun term : IndexTerm => SqlTable.checkRule _ .indexes term.value) ‹_›,
            rfl⟩
  exact goesOn new made

/-- Making an index leaves what there is. -/
theorem grows_createIndex {database new : Database} {text : IndexText}
    (made : database.createIndex text = .ok new) : database.Grows new := by
  obtain ⟨table, _, ⟨_, rfl⟩ | ⟨_, rfl⟩⟩ := of_createIndex made
  · exact .refl new
  · exact {
      tables := fun name table found => ⟨table, found, .refl table⟩
      fresh := fun name table absent found => by
        have same : database.table? name = some table := found
        rw [absent] at same
        cases same
      indexes := List.prefix_append _ _
      views := rfl
      triggers := rfl }

end Database

namespace TableDraft

/-- Whether a draft is one of a table with given rows. -/
def HasRows (rows : List SqlRow) (draft : TableDraft) : Prop := draft.table.rows = rows

variable {rows : List SqlRow} {draft : TableDraft}

theorem hasRows_addKey (has : draft.HasRows rows) (terms : List IndexTerm)
    (resolution : Option Resolution) : Yields (HasRows rows) (draft.addKey terms resolution) := by
  unfold addKey
  simp only
  repeat' first
    | exact yields_error _ _
    | exact yields_ok has
    | split

theorem hasRows_addPrimary (has : draft.HasRows rows) (columns : List Text)
    (terms : Except SqlRefusal (List IndexTerm)) (descending counted : Bool)
    (resolution : Option Resolution) :
    Yields (HasRows rows) (draft.addPrimary columns terms descending counted resolution) := by
  unfold addPrimary
  simp only [throw_eq_error, error_bind, pure_eq_ok]
  repeat' first
    | exact yields_error _ _
    | exact yields_ok has
    | refine yields_bind fun _ _ => ?_
    | refine hasRows_addKey ?_ _ _; exact has
    | split

theorem hasRows_addGenerated (has : draft.HasRows rows) (value : SqlExpression)
    (storage : Option Text) : Yields (HasRows rows) (draft.addGenerated value storage) := by
  unfold addGenerated
  simp only [throw_eq_error, error_bind, pure_eq_ok]
  repeat' first
    | exact yields_error _ _
    | exact yields_ok has
    | refine yields_bind fun _ _ => ?_
    | split

theorem hasRows_add (has : draft.HasRows rows) (element : TableElement) :
    Yields (HasRows rows) (draft.add element) := by
  unfold add
  simp only [pure_eq_ok]
  repeat' first
    | exact yields_error _ _
    | exact yields_ok has
    | exact hasRows_addPrimary has _ _ _ _ _
    | exact hasRows_addGenerated has _ _
    | refine hasRows_addKey ?_ _ _; exact has
    | refine yields_bind fun _ _ => ?_
    | split
  -- A key of several columns is taken in before its terms are checked.
  exact yields_ok (hasRows_addPrimary has _ _ _ _ _ _ ‹_›)

theorem hasRows_makeStrict (has : draft.HasRows rows) : Yields (HasRows rows) draft.makeStrict := by
  unfold makeStrict
  exact yields_bind fun _ _ => yields_ok has

theorem hasRows_dropIds (has : draft.HasRows rows) : Yields (HasRows rows) draft.dropIds := by
  unfold dropIds
  simp only [throw_eq_error, error_bind, pure_eq_ok]
  repeat' first
    | exact yields_error _ _
    | exact yields_ok has
    | refine hasRows_addKey ?_ _ _; exact has
    | split

theorem hasRows_addOptions (has : draft.HasRows rows) (options : List TableOption) :
    Yields (HasRows rows) (draft.addOptions options) := by
  unfold addOptions
  simp only [pure_eq_ok, ok_bind]
  repeat' first
    | exact yields_ok has
    | exact hasRows_dropIds has
    | exact hasRows_makeStrict has
    | refine yields_bind fun _ _ => ?_
    | split
  · exact hasRows_dropIds (hasRows_makeStrict has _ ‹_›)
  · exact yields_ok (hasRows_makeStrict has _ ‹_›)

end TableDraft

theorem SqlTable.givenColumns_of_checkRules (table : SqlTable) {checked : Unit}
    (ruled : table.checkRules = .ok checked) : table.givenColumns ≠ [] := by
  intro none
  simp [checkRules, none] at ruled

namespace Database

theorem grows_addTable (database : Database) (table : SqlTable) (indexes : List SqlIndex)
    (empty : table.rows = []) (given : table.givenColumns ≠ []) : database.Grows (database.addTable table indexes) := by
  have lookup (name : Text) : (database.addTable table indexes).table? name =
      (database.table? name).or ((table :: (if table.counted &&
        (database.table? sequenceTable.name).isNone then [sequenceTable] else [])).find?
          fun other => sameName other.name name) := by
    simp [addTable, table?, List.find?_append, List.append_assoc]
  constructor
  · intro name found foundAt
    exact ⟨found, by rw [lookup, foundAt]; rfl, .refl found⟩
  · intro name found absent foundAt
    rw [lookup, absent, Option.none_or] at foundAt
    have member := List.mem_of_find?_eq_some foundAt
    rcases List.mem_cons.mp member with rfl | counts
    · exact ⟨empty, given⟩
    · split at counts
      · rw [List.mem_singleton.mp counts]
        exact ⟨rfl, by decide⟩
      · cases counts
  · exact List.prefix_append _ _
  · rfl
  · rfl

/-- Whether making a table leaves a database as it is, because the table is there or passes with the
connection, or adds the table that its elements and options come to. -/
def IsMadeBy (database new : Database) (text : TableText) : Prop :=
  (isPassing text.temporary text.name = true ∨
      database.isNewTable text.ifAbsent text.name = .ok false) ∧ new = database ∨
    database.isNewTable text.ifAbsent text.name = .ok true ∧
      ∃ (drafted draft : TableDraft) (options : List TableOption),
        text.elements.foldlM TableDraft.add
          { table := { name := text.name.name, columns := [] } } = .ok drafted ∧
        text.ending = .ok options ∧ drafted.addOptions options = .ok draft ∧
        draft.table.givenColumns ≠ [] ∧ new = database.addTable draft.table draft.indexes

theorem of_createTable {database new : Database} {text : TableText}
    (made : database.createTable text = .ok new) :
    (∃ options, text.ending = .ok options) ∧ database.IsMadeBy new text := by
  have goesOn : Yields (fun new => (∃ options, text.ending = .ok options) ∧
      database.IsMadeBy new text) (database.createTable text) := by
    unfold createTable
    simp only [pure_eq_ok, ok_bind]
    repeat' first
      | with_reducible exact yields_error _ _
      | with_reducible refine yields_bind fun _ _ => ?_
      | with_reducible refine yields_ok ⟨⟨_, ‹_›⟩, ?_⟩
      | split
    -- A table that passes with the connection, which counts as new.
    case isTrue.isTrue => exact .inl ⟨.inl ‹_›, rfl⟩
    case isTrue.isFalse => exact .inl ⟨.inl ‹_›, rfl⟩
    -- A table that stays.
    case isFalse.isTrue =>
      rename_i isNew answered old _ _
      cases isNew with
      | true => cases old
      | false => exact .inl ⟨.inr answered, rfl⟩
    case isFalse.isFalse =>
      rename_i isNew answered new drafted draftedBy options ending draft optioned _ ruled _ _ _ _
      cases isNew with
      | true =>
          exact .inr ⟨answered, drafted, draft, options, draftedBy, ending, optioned,
            draft.table.givenColumns_of_checkRules ruled, rfl⟩
      | false => exact absurd rfl new
  exact goesOn new made

/-- Making a table leaves what there is, and the new table is empty. -/
theorem grows_createTable {database new : Database} {text : TableText}
    (made : database.createTable text = .ok new) : database.Grows new := by
  rcases (of_createTable made).2 with ⟨_, rfl⟩ |
    ⟨_, drafted, draft, options, draftedBy, _, optioned, given, rfl⟩
  · exact .refl new
  · have drafts : Yields (TableDraft.HasRows []) (text.elements.foldlM TableDraft.add
        { table := { name := text.name.name, columns := [] } }) :=
      yields_foldlM _ _ _ rfl fun _ element has => TableDraft.hasRows_add has element
    exact grows_addTable database draft.table draft.indexes
      (TableDraft.hasRows_addOptions (drafts drafted draftedBy) _ draft optioned) given

end Database

end EventForge
