import EventForge.Document.Basic
import EventForge.Sql.Cell
import EventForge.Sql.Statement

/-!
# Databases

What a database holds, and the tables that are provided without being made.
-/

namespace EventForge

/-!
## Tables that the database provides

Some names stand for tables that hold what the database knows about itself, and cannot be changed.
Each setting is a table with one row; the other tables are empty unless something is asked of them.
-/

structure VirtualTable where
  name : Text
  columns : List Text
  rows : List (List Cell)

namespace VirtualTable

/-- What stands in front of the name of a setting or listing in the name of its table. -/
def settingLead : Text := "pragma_"

/-- The settings that are integers, with their values. -/
def integerSettings : List (String × Int) := [
  ("analysis_limit", 0), ("application_id", 0), ("auto_vacuum", 0), ("automatic_index", 1),
  ("cache_size", -2000), ("cache_spill", 483), ("cell_size_check", 0), ("checkpoint_fullfsync", 0),
  ("count_changes", 0), ("data_version", 1), ("defer_foreign_keys", 0),
  ("empty_result_callbacks", 0), ("foreign_keys", 0), ("freelist_count", 0),
  ("full_column_names", 0), ("fullfsync", 0), ("hard_heap_limit", 0),
  ("ignore_check_constraints", 0), ("journal_size_limit", -1), ("legacy_alter_table", 0),
  ("max_page_count", 1073741823), ("page_count", 0), ("page_size", 4096), ("query_only", 0),
  ("read_uncommitted", 0), ("recursive_triggers", 0), ("reverse_unordered_selects", 0),
  ("schema_version", 0), ("secure_delete", 1), ("short_column_names", 1), ("soft_heap_limit", 0),
  ("synchronous", 2), ("temp_store", 0), ("threads", 0), ("trusted_schema", 1),
  ("user_version", 0), ("writable_schema", 0)]

/-- The settings that are texts, with their values. -/
def textSettings : List (String × String) := [
  ("encoding", "UTF-8"), ("integrity_check", "ok"), ("journal_mode", "memory"),
  ("locking_mode", "normal"), ("quick_check", "ok")]

/-- Listings, each with its columns. -/
def listings : List (String × List String) := [
  ("collation_list", ["seq", "name"]), ("compile_options", ["compile_options"]),
  ("foreign_key_check", ["table", "rowid", "parent", "fkid"]),
  ("foreign_key_list",
    ["id", "seq", "table", "from", "to", "on_update", "on_delete", "match"]),
  ("function_list", ["name", "builtin", "type", "enc", "narg", "flags"]),
  ("index_info", ["seqno", "cid", "name"]),
  ("index_list", ["seq", "name", "unique", "origin", "partial"]),
  ("index_xinfo", ["seqno", "cid", "name", "desc", "coll", "key"]), ("module_list", ["name"]),
  ("optimize", ["optimize"]), ("pragma_list", ["name"]),
  ("table_info", ["cid", "name", "type", "notnull", "dflt_value", "pk"]),
  ("table_list", ["schema", "name", "type", "ncol", "wr", "strict"]),
  ("table_xinfo", ["cid", "name", "type", "notnull", "dflt_value", "pk", "hidden"])]

/-- Tables whose names stand for themselves, each with its columns. -/
def others : List (String × List String) := [
  ("dbstat",
    ["name", "path", "pageno", "pagetype", "ncell", "payload", "unused", "mx_payload", "pgoffset",
      "pgsize"]),
  ("fts3tokenize", ["input", "token", "start", "end", "position"]),
  ("json_each", ["key", "value", "type", "atom", "id", "parent", "fullkey", "path"]),
  ("json_tree", ["key", "value", "type", "atom", "id", "parent", "fullkey", "path"]),
  ("sqlite_stmt",
    ["sql", "ncol", "ro", "busy", "nscan", "nsort", "naidx", "nstep", "reprep", "run", "mem"])]

/-- All of these tables. -/
def all : List VirtualTable :=
  let setting (name column : String) (cell : Cell) : VirtualTable :=
    { name := settingLead ++ name, columns := [column], rows := [[cell]] }
  (integerSettings.map fun entry => setting entry.1 entry.1 (.integer entry.2)) ++
    (textSettings.map fun entry => setting entry.1 entry.1 (.text entry.2)) ++
    [setting "busy_timeout" "timeout" (.integer 5000),
      setting "default_cache_size" "cache_size" (.integer (-2000)),
      { name := settingLead ++ "database_list", columns := ["seq", "name", "file"]
        rows := [[.integer 0, .text "main", .text []]] }] ++
    (listings.map fun entry =>
      { name := settingLead ++ entry.1, columns := entry.2.map Text.ofString, rows := [] }) ++
    others.map fun entry =>
      { name := entry.1, columns := entry.2.map Text.ofString, rows := [] }

end VirtualTable

/-!
## Databases

A database holds tables, indexes, views and triggers.  Tables, views and indexes share one space of
names, in which ASCII case does not matter; the same holds for the columns of a table.  Every row
has a number, and the rows of a table stand in the order of their numbers.
-/

/-- The definition of a column. -/
structure ColumnDefinition where
  name : Text
  typeName : Text
  notNull : Bool := false
  /-- What settles that a value is missing which must be there. -/
  notNullResolution : Option Resolution := none
  /-- Whether the column is declared to differ in all rows. -/
  unique : Bool := false
  /-- The value where none is given, and its text. -/
  standard : Option SqlExpression := none
  standardText : Option Text := none
  collation : Collation := .binary
  /-- The value that is always calculated, and whether it is stored. -/
  generated : Option (SqlExpression × Bool) := none
deriving Inhabited

/-- A condition that the rows of a table must meet. -/
structure TableCheck where
  label : Text
  condition : SqlExpression
  /-- The column that the condition is declared with. -/
  column : Option Text := none
deriving Inhabited

structure SqlRow where
  id : Int
  /-- The cells in the order of the columns. -/
  cells : List Cell
deriving Inhabited

structure SqlTable where
  name : Text
  columns : List ColumnDefinition
  checks : List TableCheck := []
  /-- The columns of the primary key. -/
  primary : List Text := []
  /-- The column that holds the numbers of the rows. -/
  idColumn : Option Text := none
  /-- What settles a conflict between numbers of rows. -/
  idResolution : Option Resolution := none
  /-- Whether numbers of rows are never given out twice. -/
  counted : Bool := false
  /-- Whether rows can be named by their numbers. -/
  hasIds : Bool := true
  /-- Whether values must be of the types of their columns. -/
  strict : Bool := false
  rows : List SqlRow := []
deriving Inhabited

/-- What an index orders rows by. -/
structure IndexTerm where
  value : SqlExpression
  collation : Collation
deriving Inhabited

structure SqlIndex where
  name : Text
  table : Text
  terms : List IndexTerm
  unique : Bool := false
  /-- Whether the index belongs to a key of its table. -/
  implied : Bool := false
  resolution : Option Resolution := none
  /-- The condition on the rows that the index covers. -/
  condition : Option SqlExpression := none
deriving Inhabited

structure SqlView where
  name : Text
  columns : List Text
  query : SqlQuery
deriving Inhabited

structure SqlTrigger where
  name : Text
  table : Text
  time : TriggerTime
  event : TriggerEvent
  condition : Option SqlExpression
  steps : List RowStatement

/-- Something that the database keeps on a page, with the text that defines it, if a statement made
it. -/
structure StoredObject where
  kind : SqlObject
  name : Text
  table : Text
  /-- The first page of a table or an index. -/
  page : Nat
  text : Option Text
deriving DecidableEq, Repr

/-- The main database of a connection, to which no other one is attached.  What a connection makes for
itself alone is checked and not kept. -/
structure Database where
  tables : List SqlTable
  indexes : List SqlIndex
  views : List SqlView := []
  triggers : List SqlTrigger := []
  /-- What was made and is still there, in its order. -/
  objects : List StoredObject := []
  /-- The pages in use or free. -/
  pageCount : Nat := 1
  /-- The free pages; the first one lists the others. -/
  freePages : List Nat := []
  /-- How often definitions were changed. -/
  version : Nat := 0
deriving Inhabited

/-- Something that a database holds, and the table that it belongs to. -/
structure CatalogEntry where
  kind : SqlObject
  name : Text
  table : Text
deriving DecidableEq, Repr

/-- Whether two names are the same to the database. -/
def sameName (first second : Text) : Bool := first.toAsciiLower == second.toAsciiLower

namespace ColumnDefinition

def affinity (column : ColumnDefinition) : Affinity := Affinity.ofTypeName column.typeName

/-- Whether the values of the column are kept with the rows, and not calculated when they are read. -/
def isKept (column : ColumnDefinition) : Bool := column.generated.all fun value => value.2

/-- The name of the type as it is listed: common ones in capitals. -/
def listedType (column : ColumnDefinition) : Text :=
  let common : List Text := ["ANY", "BLOB", "INT", "INTEGER", "REAL", "TEXT"]
  (common.find? (sameName column.typeName)).getD column.typeName

end ColumnDefinition

namespace SqlTable

/-- The column with a name. -/
def column? (table : SqlTable) (name : Text) : Option ColumnDefinition :=
  table.columns.find? fun column => sameName column.name name

/-- The position of a column. -/
def columnIndex? (table : SqlTable) (name : Text) : Option Nat :=
  table.columns.findIdx? fun column => sameName column.name name

/-- The columns that values can be given for. -/
def givenColumns (table : SqlTable) : List ColumnDefinition :=
  table.columns.filter fun column => column.generated.isNone

/-- The greatest number of a row; zero if there is no row. -/
def lastId (table : SqlTable) : Int := (table.rows.getLast?.map SqlRow.id).getD 0

/-- Adds a row at the place of its number. -/
def addRow (row : SqlRow) (rows : List SqlRow) : List SqlRow :=
  match rows.getLast? with
  | some last =>
      if last.id < row.id then rows ++ [row]
      else rows.takeWhile (fun other => other.id < row.id) ++
        row :: rows.dropWhile fun other => other.id < row.id
  | none => [row]

end SqlTable

namespace SqlExpression

/-- The name of a column that an expression is. -/
def column? : SqlExpression → Option Text
  | .column [name] _ => some name
  | _ => none

end SqlExpression

namespace SqlIndex

/-- The columns of an index that is on columns only. -/
def columns? (index : SqlIndex) : Option (List Text) :=
  index.terms.mapM fun term => term.value.column?

end SqlIndex

namespace Database

def empty : Database := { tables := [], indexes := [] }

def table? (database : Database) (name : Text) : Option SqlTable :=
  database.tables.find? fun table => sameName table.name name

def index? (database : Database) (name : Text) : Option SqlIndex :=
  database.indexes.find? fun index => sameName index.name name

def view? (database : Database) (name : Text) : Option SqlView :=
  database.views.find? fun view => sameName view.name name

def trigger? (database : Database) (name : Text) : Option SqlTrigger :=
  database.triggers.find? fun trigger => sameName trigger.name name

/-- The provided table that a name stands for where no table or view has the name. -/
def virtual? (name : Text) : Option VirtualTable :=
  VirtualTable.all.find? fun table => sameName table.name name

/-- The indexes of a table; those made last come first. -/
def indexesOf (database : Database) (table : Text) : List SqlIndex :=
  (database.indexes.filter fun index => sameName index.table table).reverse

/-- The database with a table changed. -/
def update (database : Database) (name : Text) (change : SqlTable → SqlTable) : Database :=
  { database with
    tables := database.tables.map fun table =>
      if sameName table.name name then change table else table }

/-- What the database holds, by kinds and names. -/
def catalog (database : Database) : List CatalogEntry :=
  let ordered (entries : List CatalogEntry) : List CatalogEntry :=
    entries.mergeSort fun first second => Text.le first.name second.name
  ordered (database.indexes.map fun index => ⟨.index, index.name, index.table⟩) ++
    ordered (database.tables.map fun table => ⟨.table, table.name, table.name⟩) ++
    ordered (database.triggers.map fun trigger => ⟨.trigger, trigger.name, trigger.table⟩) ++
    ordered (database.views.map fun view => ⟨.view, view.name, view.name⟩)

/-- The tables by name, and how many rows each has. -/
def rowCounts (database : Database) : List (Text × Nat) :=
  (database.tables.map fun table => (table.name, table.rows.length)).mergeSort
    fun first second => Text.le first.1 second.1

/-- Names that the database keeps for itself. -/
def isReserved (name : Text) : Bool := name.toAsciiLower.startsWith "sqlite_"

/-- The table that lists what the database holds, or what is kept with the connection only, if a
name stands for one of them. -/
def master? (name : Text) : Option Text :=
  if sameName name "sqlite_master" || sameName name "sqlite_schema" then some "sqlite_master"
  else if sameName name "sqlite_temp_master" || sameName name "sqlite_temp_schema" then
    some "sqlite_temp_master"
  else none

/-- The columns of these tables, with their types. -/
def masterColumns : List (Text × Text) :=
  [("type", "TEXT"), ("name", "TEXT"), ("tbl_name", "TEXT"), ("rootpage", "INT"), ("sql", "TEXT")]

/-- What one of these tables lists.  Nothing is kept with the connection only. -/
def masterRows (database : Database) (master : Text) : List (List Cell) :=
  if master ≠ ("sqlite_master" : Text) then []
  else
    database.objects.map fun object =>
      [.text object.kind.name, .text object.name, .text object.table, .integer object.page,
        (object.text.map Cell.text).getD .null]

/-- Whether a name can stand behind the name of this database. -/
def isMain (database : Option Text) : Bool :=
  match database with
  | none => true
  | some name => sameName name "main"

end Database

end EventForge
