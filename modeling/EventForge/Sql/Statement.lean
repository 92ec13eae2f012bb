import EventForge.Sql.Expression
import EventForge.Sql.Fault

/-!
# Statements

The statements that define, change and query tables.  The definition of a table is kept as the
elements that its text lists, since they are checked one after the other, up to where the text
breaks off.
-/

namespace EventForge

/-- A name, perhaps with the database that it belongs to. -/
structure ObjectName where
  database : Option Text := none
  name : Text
  /-- The name as it is written. -/
  written : Text
deriving DecidableEq, Repr, Inhabited

/-- The name with the database in front of it. -/
def ObjectName.shown (object : ObjectName) : Text :=
  match object.database with
  | some database => database ++ "." ++ object.name
  | none => object.name

/-- Whether the name is one that opens `if not exists` where it is written without these words. -/
def ObjectName.isOpening (object : ObjectName) : Bool :=
  object.name.toAsciiLower = ("if" : Text) && object.written.toAsciiLower.endsWith "if"

/-- An element of the definition of a table. -/
inductive TableElement
  | column (name typeName : Text)
  /-- The column in front is never missing. -/
  | notNull (resolution : Option Resolution)
  /-- The value of the column in front where none is given, with its text. -/
  | standard (value : SqlExpression) (written : Text)
  /-- The column in front is the primary key; `counted` keys are never given out twice. -/
  | primaryKey (descending counted : Bool) (resolution : Option Resolution)
  | unique (resolution : Option Resolution)
  /-- A condition, which may belong to the column in front. -/
  | check (label : Text) (condition : SqlExpression) (ofColumn : Bool)
  | collate (name : Text)
  | generated (value : SqlExpression) (storage : Option Text)
  /-- The column in front, or those listed, refer to columns of another table. -/
  | foreignKey (columns : Option (List Text)) (table : Text) (targets : List Text)
  | key (primary : Bool) (terms : List OrderTerm) (counted : Bool)
      (resolution : Option Resolution)
  /-- An element without effect. -/
  | remark

inductive TableOption
  | withoutIds
  /-- Values must be of the types of their columns. -/
  | strict
deriving DecidableEq, Repr

/-- The definition of a table by its elements. -/
structure TableText where
  temporary : Bool := false
  ifAbsent : Bool := false
  name : ObjectName
  elements : List TableElement
  /-- The options behind the elements, or where the text breaks off. -/
  ending : Except SqlRefusal (List TableOption)

structure IndexText where
  unique : Bool := false
  ifAbsent : Bool := false
  name : ObjectName
  table : Text
  terms : List OrderTerm
  condition : Option SqlExpression := none

/-- What an insertion does about a conflict with a key. -/
structure Upsert where
  /-- The key; none stands for any. -/
  target : Option (List OrderTerm × Option SqlExpression)
  /-- What is changed in the row that is there; none changes nothing. -/
  changes : Option (List (List Text × SqlExpression) × Option SqlExpression)

structure Insertion where
  resolution : Option Resolution := none
  table : ObjectName
  otherName : Option Text := none
  columns : Option (List Text)
  /-- The new rows; none stands for one row of standard values. -/
  rows : Option SqlQuery
  upserts : List Upsert := []
  returning : List ResultColumn := []

structure Update where
  resolution : Option Resolution := none
  sharing : List CommonTable := []
  table : ObjectName
  otherName : Option Text := none
  changes : List (List Text × SqlExpression)
  sources : List JoinedSource := []
  condition : Option SqlExpression
  order : List OrderTerm := []
  limit : Option SqlExpression := none
  offset : Option SqlExpression := none
  returning : List ResultColumn := []

structure Deletion where
  sharing : List CommonTable := []
  table : ObjectName
  otherName : Option Text := none
  condition : Option SqlExpression
  order : List OrderTerm := []
  limit : Option SqlExpression := none
  offset : Option SqlExpression := none
  returning : List ResultColumn := []

/-- A statement that reads or changes rows. -/
inductive RowStatement
  | insert (insertion : Insertion)
  | update (update : Update)
  | delete (deletion : Deletion)
  | query (query : SqlQuery)

/-- The database in front of the name of the table that a statement changes. -/
def RowStatement.database : RowStatement → Option Text
  | .insert statement => statement.table.database
  | .update statement => statement.table.database
  | .delete statement => statement.table.database
  | .query _ => none

inductive TriggerTime
  | before
  | after
  | instead
deriving DecidableEq, Repr

inductive TriggerEvent
  | insert
  | delete
  /-- A change of one of some columns, or of any. -/
  | update (columns : Option (List Text))
deriving DecidableEq, Repr

structure TriggerText where
  temporary : Bool := false
  ifAbsent : Bool := false
  name : ObjectName
  time : TriggerTime
  event : TriggerEvent
  table : ObjectName
  condition : Option SqlExpression
  steps : List RowStatement

inductive Statement
  | tableInfo (table : Text)
  | createTable (text : TableText)
  | createTableAs (temporary ifAbsent : Bool) (name : ObjectName) (query : SqlQuery)
  | createIndex (text : IndexText)
  | createView (temporary ifAbsent : Bool) (name : ObjectName) (columns : List Text)
      (query : SqlQuery)
  | createTrigger (text : TriggerText)
  | drop (kind : SqlObject) (ifPresent : Bool) (name : ObjectName)
  /-- The elements of a new column, where the text breaks off, and whether it ends within a remark,
so that nothing can be written behind it. -/
  | addColumn (table : ObjectName) (elements : List TableElement) (broken : Option SqlRefusal)
      (isOpen : Bool)
  | dropColumn (table : ObjectName) (column : Text)
  | renameTable (table : ObjectName) (newName : Text)
  | renameColumn (table : ObjectName) (column newName : Text)
  | rows (statement : RowStatement)
  /-- Takes notes on a table, on that of an index, or on all tables. -/
  | analyze (name : Option ObjectName)
  /-- A statement that neither reads nor changes tables. -/
  | idle

instance : Inhabited Statement := ⟨.idle⟩

end EventForge
