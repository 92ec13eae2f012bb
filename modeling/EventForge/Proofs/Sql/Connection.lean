import EventForge.Proofs.Sql.TableDefinition
import EventForge.Sql.Catalog

/-!
# Executing and recording

Spelled statements are executed; recording them leaves what a database holds.
-/

namespace EventForge

/-!
## Executing spelled statements

On an open connection, a spelled statement is prepared, its parameters are bound, and it is
performed; what it defines is recorded.
-/

namespace SqlToken

/-- A spelled text holds no null character. -/
theorem not_mem_spell (tokens : List SqlToken) (spelled : Spells tokens) :
    (0 : CodePoint) ∉ spell tokens := by
  have blankFree : ∀ before : Text, before = [] ∨ before = blank → (0 : CodePoint) ∉ before := by
    rintro before (rfl | rfl) <;> decide
  induction spelled with
  | nil => simp
  | @word before written tokens spaced plain _ _ ih =>
      have free := Identifier.not_mem_of_isPlain written plain 0 (by decide)
      simp [ofWord, blankFree before spaced, free, ih]
  | @number before number tokens spaced _ _ ih =>
      have free : (0 : CodePoint) ∉ Text.ofNat number := Text.not_mem_ofNat number _ (by decide)
      have mark : (0 : CodePoint) ∉ ("$" : Text) := by decide
      simp [ofNumber, blankFree before spaced, free, mark, ih]
  | @symbol before mark tokens spaced known _ ih =>
      have free : (0 : CodePoint) ≠ mark := by
        rcases known with rfl | rfl | rfl <;> decide
      simp [ofSymbol, blankFree before spaced, free, ih]

end SqlToken

namespace Connection

open SqlToken

/-- Whether statements can be executed on a connection. -/
structure IsReady (connection : Connection) : Prop where
  opened : connection.closed = false
  known : connection.foreign = false

/-- A connection on which anything is executed is ready. -/
theorem isReady_of_execute {connection after : Connection} {text : Text} {values : Fields Document}
    {rows : List (List Document)} (executed : connection.execute text values = .ok (rows, after)) :
    connection.IsReady := by
  unfold execute at executed
  constructor
  · rw [← Bool.not_eq_true]
    intro closed
    simp [closed] at executed
  · rw [← Bool.not_eq_true]
    intro foreign
    simp only [foreign, Outcome.throw_eq_error, Outcome.error_bind, if_true] at executed
    split at executed
    · cases executed
    · split at executed <;> cases executed

/-- A spelled statement with values for its parameters. -/
theorem execute_spell (connection : Connection) (ready : connection.IsReady)
    (tokens : List SqlToken) (spelled : Spells tokens) (statement : Statement)
    (parameters : List (Option Text)) (values : Fields Document)
    (read : FirstStatement.ofText (spell tokens) = .ok { statement, tokens, parameters })
    (given : values ≠ [] ∨ parameters = []) :
    connection.execute (spell tokens) values = (do
      (connection.database.prepare statement).mapError SqlFault.refused
      let bound ← bindAll values 1 parameters
      let result ← (connection.database.perform bound statement).mapError SqlFault.refused
      return (result.1.map (·.map documentOf),
        { connection with
          database := connection.database.recorded tokens statement result.2 })) := by
  have clean : (spell tokens).contains (0 : CodePoint) = false := by
    simpa using not_mem_spell tokens spelled
  have enough : (values.isEmpty && !parameters.isEmpty) = false := by
    rcases given with inhabited | none
    · cases values with
      | nil => exact absurd rfl inhabited
      | cons => rfl
    · simp [none]
  simp only [execute, ready.opened, ready.known, clean, read, enough, Outcome.ok_bind,
    Outcome.mapError_ok, Outcome.pure_eq_ok, Bool.false_eq_true, if_false]

/-- A definition that is the same without the rows of the database is performed if it is prepared. -/
theorem execute_definition (connection : Connection) (ready : connection.IsReady)
    (tokens : List SqlToken) (spelled : Spells tokens) (statement : Statement)
    (read : FirstStatement.ofText (spell tokens) = .ok { statement, tokens })
    (defines : ∀ database : Database, database.prepare statement =
      match database.withoutRows.define [] true statement with
      | .ok _ | .error (.brokenBy _ _ _ _) | .error (.malformed _ _) => .ok ()
      | .error fault => .error fault)
    (performs : connection.database.perform [] statement =
      (connection.database.define [] false statement).map fun database => ([], database))
    (same : connection.database.withoutRows.define [] true statement =
      (connection.database.define [] false statement).map Database.withoutRows) :
    connection.execute (spell tokens) [] =
      ((connection.database.define [] false statement).mapError SqlFault.refused).map fun database =>
        ([], { connection with
          database := connection.database.recorded tokens statement database }) := by
  rw [execute_spell connection ready tokens spelled statement [] [] read (Or.inr rfl), defines,
    same]
  simp only [bindAll, Outcome.ok_bind, performs]
  cases connection.database.define [] false statement with
  | ok database => rfl
  | error fault => cases fault <;> rfl

/-- The tokens that ask for the columns of a table. -/
def tableInfoTokens (table : Text) : List SqlToken :=
  [ofWord [] "PRAGMA", ofWord blank "table_info", opening [], ofWord [] table, closing]

theorem spells_tableInfoTokens (table : Text) (named : IsName table) :
    Spells (tableInfoTokens table) := by
  refine spells_word _ _ _ _ (Or.inl rfl) (by decide) (.word (Or.inr rfl) (by decide)
    (endsWord_opening [] (Or.inl rfl) _) (spells_opening _ (Or.inl rfl) _ ?_))
  exact .word (Or.inl rfl) named.plain (endsWord_of_endsVariable _ (endsVariable_closing []))
    (spells_closing [] .nil)

theorem tableInfoText_eq (table : Text) :
    ("PRAGMA table_info(" : Text) ++ table ++ ")" = spell (tableInfoTokens table) := by
  simp [tableInfoTokens, ofWord, opening, closing, ofSymbol]
  rfl

/-- The columns that a connection shows are those of its database. -/
theorem columns_eq (connection : Connection) (ready : connection.IsReady) (table : Text)
    (named : IsName table) :
    connection.columns table =
      (connection.database.columnNames table).mapError SqlFault.refused := by
  have spelled := spells_tableInfoTokens table named
  have read := FirstStatement.ofText_spell _ _ spelled (by simp [tableInfoTokens])
    (SqlReader.statement_tableInfo table named) (by simp [tableInfoTokens, opening, closing])
    (by simp)
  have noVariables : variableNames (tableInfoTokens table) = [] := by
    simp [tableInfoTokens, opening, closing]
  have shown : ∀ names : List Text, ((names.map fun name => [Cell.text name]).map
      (·.map documentOf)).flatten.map Document.plain = names := by
    intro names
    induction names with
    | nil => rfl
    | cons name names ih => simpa [documentOf, Document.plain] using ih
  rw [columns, tableInfoText_eq, execute_spell connection ready _ spelled _ _ [] read
    (Or.inr (by simp [noVariables])), noVariables]
  cases found : connection.database.columnNames table with
  | error fault => simp [Database.prepare, Database.define, Database.perform, found, bindAll]
  | ok names =>
      have every := shown names
      simp [Database.prepare, Database.define, Database.perform, found, bindAll] at every ⊢
      exact every

end Connection

end EventForge

/-!
## What recording leaves as it is

Recording a statement changes what a database lists and on which pages, and nothing that it holds.
-/

namespace EventForge.Database

/-- Whether two databases hold the same tables, indexes, views and triggers. -/
structure SameContent (first second : Database) : Prop where
  tables : first.tables = second.tables
  indexes : first.indexes = second.indexes
  views : first.views = second.views
  triggers : first.triggers = second.triggers

namespace SameContent

theorem refl (database : Database) : SameContent database database := ⟨rfl, rfl, rfl, rfl⟩

theorem trans {first second third : Database} (lower : SameContent first second)
    (upper : SameContent second third) : SameContent first third :=
  ⟨lower.tables.trans upper.tables, lower.indexes.trans upper.indexes,
    lower.views.trans upper.views, lower.triggers.trans upper.triggers⟩

end SameContent

theorem sameContent_takePage (database : Database) : SameContent database.takePage.2 database := by
  rw [takePage]
  split <;> exact ⟨rfl, rfl, rfl, rfl⟩

theorem sameContent_note (database : Database) (kind : SqlObject) (name table : Text)
    (text : Option Text) : SameContent (database.note kind name table text) database := by
  have taken := sameContent_takePage database
  cases kind with
  | table | index => exact ⟨taken.tables, taken.indexes, taken.views, taken.triggers⟩
  | view | trigger => exact ⟨rfl, rfl, rfl, rfl⟩

/-- Steps that each leave the content as it is leave it so together. -/
theorem sameContent_foldl {Item : Type} (step : Database → Item → Database) (items : List Item)
    (database : Database)
    (each : ∀ database item, SameContent (step database item) database) :
    SameContent (items.foldl step database) database := by
  induction items generalizing database with
  | nil => exact .refl _
  | cons item items ih => exact (ih (step database item)).trans (each database item)

theorem sameContent_noteTables (database : Database) (text : SqlTable → Option Text) :
    SameContent (database.noteTables text) database := by
  apply sameContent_foldl
  intro database table
  split
  · exact .refl _
  · exact (sameContent_foldl _ _ _ fun _ _ => sameContent_note _ _ _ _ _).trans
      (sameContent_note _ _ _ _ _)

/-- Noting some items unless they are noted already. -/
theorem sameContent_notes {Item : Type} (items : List Item) (isKnown : Database → Item → Bool)
    (note : Database → Item → Database)
    (each : ∀ database item, SameContent (note database item) database) (database : Database) :
    SameContent (items.foldl (fun database item =>
      if isKnown database item then database else note database item) database) database := by
  apply sameContent_foldl
  intro database item
  split
  · exact .refl _
  · exact each database item

theorem sameContent_noteNew (database : Database) (tokens : List SqlToken)
    (statement : Statement) : SameContent (database.noteNew tokens statement) database := by
  have tables := fun text => sameContent_noteTables database text
  cases statement with
  | createIndex text =>
      exact (sameContent_notes _ (fun database (index : SqlIndex) =>
        index.implied || database.isNoted .index index.name) _
        (fun _ _ => sameContent_note _ _ _ _ _) _).trans (tables _)
  | createView =>
      exact (sameContent_notes _ (fun database (view : SqlView) =>
        database.isNoted .view view.name) _
        (fun _ _ => sameContent_note _ _ _ _ _) _).trans (tables _)
  | createTrigger =>
      exact (sameContent_notes _ (fun database (trigger : SqlTrigger) =>
        database.isNoted .trigger trigger.name) _
        (fun _ _ => sameContent_note _ _ _ _ _) _).trans (tables _)
  | _ => exact tables _

theorem sameContent_forgetGone (database : Database) : SameContent database.forgetGone database :=
  ⟨rfl, rfl, rfl, rfl⟩

/-- What a database holds is not changed by recording a statement. -/
theorem sameContent_recorded (before : Database) (tokens : List SqlToken) (statement : Statement)
    (database : Database) :
    SameContent (before.recorded tokens statement database) database := by
  have noted : ∀ edited : Database, SameContent edited database →
      SameContent
        (let noted := edited.forgetGone.noteNew tokens statement
         if noted.objects = before.objects then noted
         else { noted with version := noted.version + 1 }) database := by
    intro edited same
    have content := (sameContent_noteNew edited.forgetGone tokens statement).trans
      ((sameContent_forgetGone edited).trans same)
    simp only
    split
    · exact content
    · exact ⟨content.tables, content.indexes, content.views, content.triggers⟩
  cases statement with
  | rows | tableInfo | idle => exact .refl _
  | _ => exact noted _ ⟨rfl, rfl, rfl, rfl⟩

end EventForge.Database
