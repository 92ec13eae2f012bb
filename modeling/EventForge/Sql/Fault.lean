import EventForge.Fault
import EventForge.Text.Utf8

/-!
# Refusals of the database

A statement is refused because it is no statement, because it names what does not exist or exists
already, because it breaks a rule of a table, or because its parameters do not fit its values.  A
value that the database has no form for fails on the way to it.
-/

namespace EventForge

/-- What a database holds. -/
inductive SqlObject
  | table
  | index
  | view
  | trigger
deriving DecidableEq, Repr

def SqlObject.name : SqlObject → Text
  | .table => "table"
  | .index => "index"
  | .view => "view"
  | .trigger => "trigger"

/-- What an expression must not hold at its place. -/
inductive Prohibited
  | subqueries
  | parameters
  | unpredictable
  | outerColumns
deriving DecidableEq, Repr

/-- Where expressions are restricted. -/
inductive RestrictedPlace
  | indexes
  | partialIndexes
  | checks
  | generated
deriving DecidableEq, Repr

inductive SqlRefusal
  | syntaxNear (token : Text)
  | incomplete
  | unrecognized (token : Text)
  | severalStatements
  | reservedName (name : Text)
  | noDatabase (name : Text)
  | noObject (kind : SqlObject) (name : Text)
  /-- A column that is named by a path. -/
  | noColumn (path : List Text)
  | ambiguousColumn (path : List Text)
  /-- An insertion names a column that its table does not have. -/
  | noTableColumn (table column : Text)
  /-- The column to be removed or renamed does not exist. -/
  | noColumnToChange (column : Text)
  | noFunction (name : Text)
  /-- A function in a value that is only looked at when it is needed. -/
  | unknownFunction (name : Text)
  | argumentCount (function : Text)
  /-- An aggregate among conditions on single rows, or where none can stand at all. -/
  | misusedAggregate (inCondition : Bool) (function : Text)
  | noCollation (name : Text)
  | prohibited (what : Prohibited) (place : RestrictedPlace)
  | prohibitedKeyExpression
  | misusedRow
  | columnCount (expected found : Nat)
  /-- A row among others has another number of values. -/
  | rowWidth (found expected : Nat)
  | compoundCount (operator : Text)
  /-- A term of an order or a grouping is the position of a column that is not there. -/
  | positionRange (place : Nat) (clause : Text) (columns : Nat)
  | raiseOutside
  | severalPrimaryKeys (table : Text)
  | uncountable
  | noPrimaryKey (table : Text)
  | countedWithoutIds
  | generatedKey
  | generatedDefault
  | brokenGenerated (column : Text)
  | onlyGenerated
  | generatedLoop (column : Text)
  /-- The present moment is used by a function where it cannot count. -/
  | presentMoment (function : Text) (place : RestrictedPlace)
  | explicitNulls (nullsLast : Bool)
  | changingDefault (column : Text)
  | unknownForeignColumn (column : Text)
  | foreignColumn (column table : Text)
  | foreignCount
  | unknownOption (option : Text)
  | missingType (table column : Text)
  | unknownType (table column typeName : Text)
  /-- A value of another type than its column in a strict table. -/
  | strictType (value typeName table column : Text)
  | changedGenerated (verb column : Text)
  | uniqueColumnDropped (key column : Text)
  | lastColumn (column : Text)
  /-- An index, a view or a rule of a table would be broken by a change. -/
  | brokenBy (change : Text) (kind : SqlObject) (name reason : Text)
  /-- A definition that cannot be read again as it is kept. -/
  | malformed (name token : Text)
  | duplicateColumn (column : Text)
  | objectExists (kind : SqlObject) (name : Text)
  /-- A table with the name of the new index exists. -/
  | tableNamed (name : Text)
  /-- An index with the name of the new table exists. -/
  | indexNamed (name : Text)
  /-- A table or index with the new name of a table exists. -/
  | nameTaken (name : Text)
  /-- The index to be removed belongs to a key. -/
  | impliedIndex
  | notIndexable (table : Text)
  /-- An index is to be kept with the connection only, but not its table. -/
  | passingIndex (table : Text)
  | notAlterable (table : Text)
  | notDroppable (table : Text)
  | notModifiable (table : Text)
  | viewNotModifiable (view : Text)
  | viewNotIndexable
  | viewColumn
  | viewNotAlterable (view : Text)
  | viewColumnsFixed (change view : Text)
  | otherKind (kind : SqlObject) (name : Text)
  | virtualFixed (change : Text)
  | viewCircle (view : Text)
  | viewColumns (view : Text) (expected found : Nat)
  | uniqueColumn
  | keyColumn
  | unsetColumn
  | unpredictableColumn
  | storedColumn
  | brokenRows (rule : Text)
  | valueCount (table : Text) (columns values : Nat)
  | listedCount (columns values : Nat)
  | assignedCount (columns values : Nat)
  /-- The rows of one insertion have different numbers of values. -/
  | unevenRows
  | conflictTarget
  | notUnique (columns : List Text)
  | notUniqueIndex (index : Text)
  | notSet (table column : Text)
  | checkFailed (rule : Text)
  | wrongType
  | raised (message : Text)
  /-- A refusal whose reason is given. -/
  | other (reason : Text)
  /-- A trigger gives up the present row; no statement ends in this way. -/
  | rowIgnored
  | overflow
  | tooDeep
  | triggerOnView (view timing : Text)
  | triggerOnTable (table : Text)
  | closed
  /-- What was opened is no database. -/
  | notADatabase
  | nullCharacter
  | unboundParameter (name : Text)
  /-- A parameter without a name, at its position. -/
  | namelessParameter (position : Nat)
  /-- A statement with parameters for which there are no values. -/
  | bindingCount (parameters supplied : Nat)
  | unsupported (position : Nat) (kind : Text)
  /-- A text that is read from a column has bytes that encode nothing. -/
  | undecodable (column : Text) (bytes : Bytes)
deriving DecidableEq, Repr

namespace Prohibited

def name : Prohibited → Text
  | .subqueries => "subqueries"
  | .parameters => "parameters"
  | .unpredictable => "non-deterministic functions"
  | .outerColumns => "the \".\" operator"

end Prohibited

namespace RestrictedPlace

def name : RestrictedPlace → Text
  | .indexes => "index expressions"
  | .partialIndexes => "partial index WHERE clauses"
  | .checks => "CHECK constraints"
  | .generated => "generated columns"

/-- The place as one of its kind. -/
def shown : RestrictedPlace → Text
  | .indexes | .partialIndexes => "an index"
  | .checks => "a CHECK constraint"
  | .generated => "a generated column"

end RestrictedPlace

namespace SqlRefusal

/-- A text between double quotes. -/
def quote (text : Text) : Text := ("\"" : Text) ++ text ++ "\""

/-- A word in capitals. -/
def capitals (text : Text) : Text :=
  text.map fun point => if point.isAsciiLower then CodePoint.ofNat (point.val - 32) else point

/-- A number as a place in a row: 1st, 2nd, 3rd, 4th. -/
def ordinal (number : Nat) : Text :=
  let ending : Text :=
    if number / 10 % 10 = 1 then "th"
    else
      match number % 10 with
      | 1 => "st"
      | 2 => "nd"
      | 3 => "rd"
      | _ => "th"
  Text.ofNat number ++ ending

/-- A report on a text that is read, as far as it has room.  Bytes that are not ASCII cannot be
shown. -/
def undecodableText (column : Text) (bytes : Bytes) : Text :=
  let report : Bytes :=
    Utf8.encodeAll ("Could not decode to UTF-8 column '" ++ column ++ "' with text '") ++
      (bytes.takeWhile fun byte => byte ≠ 0) ++ Utf8.encodeAll "'"
  (report.take 198).map fun byte =>
    if byte < 0x80 then CodePoint.ofNat byte.toNat else 0xFFFD

def message : SqlRefusal → Text
  | .syntaxNear token => ("near " : Text) ++ quote token ++ ": syntax error"
  | .incomplete => "incomplete input"
  | .unrecognized token => ("unrecognized token: " : Text) ++ quote token
  | .severalStatements => "You can only execute one statement at a time."
  | .reservedName name => ("object name reserved for internal use: " : Text) ++ name
  | .noDatabase name => ("unknown database " : Text) ++ name
  | .noObject kind name => ("no such " : Text) ++ kind.name ++ ": " ++ name
  | .noColumn path => ("no such column: " : Text) ++ Text.join "." path
  | .ambiguousColumn path => ("ambiguous column name: " : Text) ++ Text.join "." path
  | .noTableColumn table column => ("table " : Text) ++ table ++ " has no column named " ++ column
  | .noColumnToChange column => ("no such column: " : Text) ++ quote column
  | .noFunction name => ("no such function: " : Text) ++ name
  | .unknownFunction name => ("unknown function: " : Text) ++ name ++ "()"
  | .argumentCount function =>
      ("wrong number of arguments to function " : Text) ++ function ++ "()"
  | .misusedAggregate true function => ("misuse of aggregate: " : Text) ++ function ++ "()"
  | .misusedAggregate false function =>
      ("misuse of aggregate function " : Text) ++ function ++ "()"
  | .noCollation name => ("no such collation sequence: " : Text) ++ name
  | .prohibited what place => what.name ++ " prohibited in " ++ place.name
  | .prohibitedKeyExpression => "expressions prohibited in PRIMARY KEY and UNIQUE constraints"
  | .misusedRow => "row value misused"
  | .columnCount expected found =>
      ("sub-select returns " : Text) ++ Text.ofNat found ++ " columns - expected " ++
        Text.ofNat expected
  | .rowWidth found expected =>
      ("IN(...) element has " : Text) ++ Text.ofNat found ++ (if found = 1 then " term" else " terms") ++
        " - expected " ++ Text.ofNat expected
  | .compoundCount operator =>
      ("SELECTs to the left and right of " : Text) ++ operator ++
        " do not have the same number of result columns"
  | .positionRange place clause columns =>
      ordinal place ++ " " ++ clause ++ " BY term out of range - should be between 1 and " ++
        Text.ofNat columns
  | .raiseOutside => "RAISE() may only be used within a trigger-program"
  | .severalPrimaryKeys table =>
      ("table " : Text) ++ quote table ++ " has more than one primary key"
  | .uncountable => "AUTOINCREMENT is only allowed on an INTEGER PRIMARY KEY"
  | .countedWithoutIds => "AUTOINCREMENT not allowed on WITHOUT ROWID tables"
  | .noPrimaryKey table => ("PRIMARY KEY missing on table " : Text) ++ table
  | .generatedKey => "generated columns cannot be part of the PRIMARY KEY"
  | .generatedDefault => "cannot use DEFAULT on a generated column"
  | .brokenGenerated column => ("error in generated column " : Text) ++ quote column
  | .onlyGenerated => "must have at least one non-generated column"
  | .generatedLoop column => ("generated column loop on " : Text) ++ quote column
  | .presentMoment function place =>
      ("non-deterministic use of " : Text) ++ function ++ "() in " ++ place.shown
  | .explicitNulls nullsLast =>
      ("unsupported use of NULLS " : Text) ++ if nullsLast then "LAST" else "FIRST"
  | .changingDefault column => ("default value of column [" : Text) ++ column ++ "] is not constant"
  | .unknownForeignColumn column =>
      ("unknown column " : Text) ++ quote column ++ " in foreign key definition"
  | .foreignColumn column table =>
      ("foreign key on " : Text) ++ column ++ " should reference only one column of table " ++ table
  | .foreignCount =>
      ("number of columns in foreign key does not match the number of columns in the " : Text) ++
        "referenced table"
  | .unknownOption option => ("unknown table option: " : Text) ++ option
  | .missingType table column => ("missing datatype for " : Text) ++ table ++ "." ++ column
  | .unknownType table column typeName =>
      ("unknown datatype for " : Text) ++ table ++ "." ++ column ++ ": " ++ quote typeName
  | .strictType value typeName table column =>
      ("cannot store " : Text) ++ value ++ " value in " ++ typeName ++ " column " ++ table ++ "." ++
        column
  | .changedGenerated verb column =>
      ("cannot " : Text) ++ verb ++ " generated column " ++ quote column
  | .uniqueColumnDropped key column =>
      ("cannot drop " : Text) ++ key ++ " column: " ++ quote column
  | .lastColumn column =>
      ("cannot drop column " : Text) ++ quote column ++ ": no other columns exist"
  | .brokenBy change kind name reason =>
      ("error in " : Text) ++ kind.name ++ " " ++ name ++ " after " ++ change ++ ": " ++ reason
  | .malformed name token =>
      ("malformed database schema (" : Text) ++ name ++ ") - near " ++ quote token ++
        ": syntax error"
  | .duplicateColumn column => ("duplicate column name: " : Text) ++ column
  | .objectExists kind name => kind.name ++ " " ++ name ++ " already exists"
  | .tableNamed name => ("there is already a table named " : Text) ++ name
  | .indexNamed name => ("there is already an index named " : Text) ++ name
  | .nameTaken name =>
      ("there is already another table or index with this name: " : Text) ++ name
  | .impliedIndex =>
      "index associated with UNIQUE or PRIMARY KEY constraint cannot be dropped"
  | .passingIndex table => ("cannot create a TEMP index on non-TEMP table " : Text) ++ quote table
  | .notIndexable table => ("table " : Text) ++ table ++ " may not be indexed"
  | .notAlterable table => ("table " : Text) ++ table ++ " may not be altered"
  | .notDroppable table => ("table " : Text) ++ table ++ " may not be dropped"
  | .notModifiable table => ("table " : Text) ++ table ++ " may not be modified"
  | .viewNotModifiable view => ("cannot modify " : Text) ++ view ++ " because it is a view"
  | .viewNotIndexable => "views may not be indexed"
  | .viewColumn => "Cannot add a column to a view"
  | .viewNotAlterable view => ("view " : Text) ++ view ++ " may not be altered"
  | .viewColumnsFixed change view => ("cannot " : Text) ++ change ++ " view " ++ quote view
  | .otherKind kind name =>
      ("use DROP " : Text) ++ capitals kind.name ++ " to delete " ++ kind.name ++ " " ++ name
  | .virtualFixed change => ("virtual tables may not be " : Text) ++ change
  | .viewCircle view => ("view " : Text) ++ view ++ " is circularly defined"
  | .viewColumns view expected found =>
      ("expected " : Text) ++ Text.ofNat expected ++ " columns for '" ++ view ++ "' but got " ++
        Text.ofNat found
  | .uniqueColumn => "Cannot add a UNIQUE column"
  | .keyColumn => "Cannot add a PRIMARY KEY column"
  | .unsetColumn => "Cannot add a NOT NULL column with default value NULL"
  | .unpredictableColumn => "Cannot add a column with non-constant default"
  | .storedColumn => "cannot add a STORED column"
  | .brokenRows rule => rule ++ " constraint failed"
  | .valueCount table columns values =>
      ("table " : Text) ++ table ++ " has " ++ Text.ofNat columns ++ " columns but " ++
        Text.ofNat values ++ " values were supplied"
  | .listedCount columns values =>
      Text.ofNat values ++ " values for " ++ Text.ofNat columns ++ " columns"
  | .assignedCount columns values =>
      Text.ofNat columns ++ " columns assigned " ++ Text.ofNat values ++ " values"
  | .unevenRows => "all VALUES must have the same number of terms"
  | .conflictTarget =>
      "ON CONFLICT clause does not match any PRIMARY KEY or UNIQUE constraint"
  | .notUnique columns => ("UNIQUE constraint failed: " : Text) ++ Text.join ", " columns
  | .notUniqueIndex index => ("UNIQUE constraint failed: index '" : Text) ++ index ++ "'"
  | .notSet table column => ("NOT NULL constraint failed: " : Text) ++ table ++ "." ++ column
  | .checkFailed rule => ("CHECK constraint failed: " : Text) ++ rule
  | .wrongType => "datatype mismatch"
  | .raised message => message
  | .other reason => reason
  | .rowIgnored => []
  | .overflow => "integer overflow"
  | .tooDeep => "Expression tree is too large (maximum depth 1000)"
  | .triggerOnView view timing =>
      ("cannot create " : Text) ++ timing ++ " trigger on view: " ++ view
  | .triggerOnTable table => ("cannot create INSTEAD OF trigger on table: " : Text) ++ table
  | .closed => "Cannot operate on a closed database."
  | .notADatabase => "file is not a database"
  | .nullCharacter => "the query contains a null character"
  | .unboundParameter name =>
      ("You did not supply a value for binding parameter :" : Text) ++ name ++ "."
  | .namelessParameter position =>
      ("Binding " : Text) ++ Text.ofNat position ++
        " has no name, but you supplied a dictionary (which has only names)."
  | .bindingCount parameters supplied =>
      ("Incorrect number of bindings supplied. The current statement uses " : Text) ++
        Text.ofNat parameters ++ ", and there are " ++ Text.ofNat supplied ++ " supplied."
  | .unsupported position kind =>
      ("Error binding parameter " : Text) ++ Text.ofNat position ++ ": type '" ++ kind ++
        "' is not supported"
  | .undecodable column bytes => undecodableText column bytes

/-- The kind of a refusal.  All refusals are failures of the database. -/
def kind : SqlRefusal → FaultKind
  | .closed | .nullCharacter | .unboundParameter _ | .namelessParameter _ | .bindingCount _ _
  | .unsupported _ _ | .severalStatements => .databaseUse
  | .notUnique _ | .notUniqueIndex _ | .notSet _ _ | .checkFailed _ | .wrongType | .raised _
  | .strictType _ _ _ _ => .databaseIntegrity
  | _ => .databaseOperation

end SqlRefusal

/-- Why a statement with values is not executed: the database refuses it, or one of the values is
an integer or a text that the database has no form for. -/
inductive SqlFault
  | refused (refusal : SqlRefusal)
  | integerRange
  | encoding (error : Utf8EncodeError)
deriving DecidableEq, Repr

namespace SqlFault

def message : SqlFault → Text
  | .refused refusal => refusal.message
  | .integerRange => "Python int too large to convert to SQLite INTEGER"
  | .encoding error => error.message

def kind : SqlFault → FaultKind
  | .refused refusal => refusal.kind
  | .integerRange => .overflow
  | .encoding _ => .utf8Encoding

def fault (fault : SqlFault) : Fault := Fault.plain fault.kind fault.message

end SqlFault

end EventForge
