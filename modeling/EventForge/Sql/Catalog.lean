import EventForge.Sql.Database
import EventForge.Sql.Token

/-!
# The catalog of a database

A database lists what it holds in the order in which it was made, with the text of each definition
from its name on and the page on which it starts.  A change of a table edits the texts; what is
removed gives its pages back, and they are used again before new ones.
-/

namespace EventForge

namespace DefinitionText

/-- Whether a token is a name. -/
def isName (name : Text) (token : SqlToken) : Bool :=
  match token.kind with
  | .word => sameName token.written name
  | .quotedName content => sameName content name
  | _ => false

/-- The tokens of a definition from the name of what it makes on. -/
def fromName (tokens : List SqlToken) : List SqlToken :=
  let isMark (token : SqlToken) : Bool :=
    token.isWord "temp" || token.isWord "temporary" || token.isWord "unique"
  let rest := ((tokens.drop 1).dropWhile isMark).drop 1
  let rest :=
    match rest with
    | first :: second :: third :: others =>
        if first.isWord "if" && second.isWord "not" && third.isWord "exists" then others else rest
    | _ => rest
  match rest with
  | _ :: dot :: others => if dot.isSymbol "." then others else rest
  | _ => rest

/-- The text that is kept of a definition. -/
def kept (kind : Text) (tokens : List SqlToken) : Text :=
  ("CREATE " : Text) ++ kind ++ " " ++ SqlToken.span (fromName tokens)

/-- Words that are written in quotes where they are names. -/
def keywords : List Text := List.map Text.ofString [
  "abort", "action", "add", "after", "all", "alter", "always", "analyze", "and", "as", "asc",
  "attach", "autoincrement", "before", "begin", "between", "by", "cascade", "case", "cast", "check",
  "collate", "column", "commit", "conflict", "constraint", "create", "cross", "current",
  "current_date", "current_time", "current_timestamp", "database", "default", "deferrable",
  "deferred", "delete", "desc", "detach", "distinct", "do", "drop", "each", "else", "end", "escape",
  "except", "exclude", "exclusive", "exists", "explain", "fail", "filter", "first", "following",
  "for", "foreign", "from", "full", "generated", "glob", "group", "groups", "having", "if", "ignore",
  "immediate", "in", "index", "indexed", "initially", "inner", "insert", "instead", "intersect",
  "into", "is", "isnull", "join", "key", "last", "left", "like", "limit", "match", "materialized",
  "natural", "no", "not", "nothing", "notnull", "null", "nulls", "of", "offset", "on", "or", "order",
  "others", "outer", "over", "partition", "plan", "pragma", "preceding", "primary", "query", "raise",
  "range", "recursive", "references", "regexp", "reindex", "release", "rename", "replace",
  "restrict", "returning", "right", "rollback", "row", "rows", "savepoint", "select", "set", "table",
  "temp", "temporary", "then", "ties", "to", "transaction", "trigger", "unbounded", "union",
  "unique", "update", "using", "vacuum", "values", "view", "virtual", "when", "where", "window",
  "with", "without"]

/-- A name in double quotes. -/
def quotedName (name : Text) : Text :=
  let mark := CodePoint.ofChar '"'
  let doubled : Text := name.flatMap fun point : CodePoint =>
    if point = mark then [point, point] else [point]
  [mark] ++ doubled ++ [mark]

/-- A name as it is written in a definition. -/
def nameText (name : Text) : Text :=
  let isPlain (point : CodePoint) : Bool := point.isAsciiAlphanumeric || point = CodePoint.ofChar '_'
  if name.isEmpty || name.head?.any CodePoint.isAsciiDigit || !name.all isPlain ||
      keywords.contains name.toAsciiLower then
    quotedName name
  else name

/-- The text that defines a table of the rows of a query. -/
def ofResult (table : SqlTable) : Text :=
  let size (name : Text) : Nat := (quotedName name).length
  let total := (table.columns.map fun column => size column.name + 5).foldl (· + ·) (size table.name)
  let (opening, separator, closing) : Text × Text × Text :=
    if total < 50 then ([], ",", ")") else ("\n  ", ",\n  ", "\n)")
  let column (column : ColumnDefinition) : Text :=
    nameText column.name ++ (if column.typeName.isEmpty then [] else (" " : Text) ++ column.typeName)
  ("CREATE TABLE " : Text) ++ nameText table.name ++ "(" ++ opening ++
    Text.join separator (table.columns.map column) ++ closing

/-- The tokens of the columns and rules of a table, in parentheses: those up to the opening one, those
of each element, and those from the closing one on. -/
structure TableParts where
  opening : List SqlToken
  elements : List (List SqlToken)
  closing : List SqlToken

/-- The elements from some tokens on; `depth` parentheses are open, and `element` holds the tokens of
the present element from the last one on.  A comma belongs to the element behind it. -/
def elementsFrom (depth : Nat) (element : List SqlToken) :
    List SqlToken → List (List SqlToken) × List SqlToken
  | [] => ([element.reverse], [])
  | token :: tokens =>
      if token.isSymbol ")" && depth = 0 then ([element.reverse], token :: tokens)
      else if token.isSymbol "," && depth = 0 then
        let (others, closing) := elementsFrom 0 [token] tokens
        (element.reverse :: others, closing)
      else
        let depth :=
          if token.isSymbol "(" then depth + 1 else if token.isSymbol ")" then depth - 1 else depth
        elementsFrom depth (token :: element) tokens

/-- The parts of the text of a table. -/
def parts (text : Text) : TableParts :=
  let tokens := SqlToken.ofText text
  let opening := tokens.takeWhile fun token => !token.isSymbol "("
  let rest := tokens.drop opening.length
  let (elements, closing) := elementsFrom 0 [] (rest.drop 1)
  { opening := opening ++ rest.take 1, elements, closing }

/-- The text of the parts of a table. -/
def TableParts.text (parts : TableParts) : Text :=
  SqlToken.span (parts.opening ++ parts.elements.flatten ++ parts.closing)

/-- Whether an element is a rule for the whole table. -/
def isRule (element : List SqlToken) : Bool :=
  let words : List Text := ["constraint", "primary", "unique", "check", "foreign"]
  match element with
  | comma :: token :: _ => comma.isSymbol "," && words.any token.isWord
  | _ => false

/-- The first token behind which nothing is changed, with other blanks in front of it. -/
def withBefore (before : Text) : List SqlToken → List SqlToken
  | [] => []
  | token :: tokens => { token with before } :: tokens

/-- The text of a table with a column added behind the others. -/
def addColumn (column : List SqlToken) (text : Text) : Text :=
  let found := parts text
  let columns := found.elements.takeWhile fun element => !isRule element
  let rules := found.elements.drop columns.length
  let next := (rules.flatten ++ found.closing).head?
  let comma : SqlToken :=
    { kind := .symbol, before := (next.map SqlToken.before).getD [], written := "," }
  let added := comma :: withBefore " " column
  match rules with
  | rule :: others =>
      { found with elements := columns ++ [added, withBefore [] rule] ++ others }.text
  | [] =>
      { found with elements := columns ++ [added], closing := withBefore [] found.closing }.text

/-- The text of a table without the column at a position. -/
def dropColumn (position : Nat) (text : Text) : Text :=
  let found := parts text
  let columns := found.elements.takeWhile fun element => !isRule element
  let rules := found.elements.drop columns.length
  let column := columns.getD position []
  let before := (column.head?.map SqlToken.before).getD []
  if position + 1 < columns.length then
    let next := columns.getD (position + 1) []
    let merged : List SqlToken :=
      if position = 0 then withBefore before (next.drop 1)
      else column.take 1 ++
        withBefore (((column[1]?).map SqlToken.before).getD []) (next.drop 1)
    { found with
      elements := columns.take position ++ [merged] ++ columns.drop (position + 2) ++ rules }.text
  else
    match rules with
    | rule :: others =>
        { found with elements := columns.take position ++ [withBefore before rule] ++ others }.text
    | [] =>
        { found with
          elements := columns.take position, closing := withBefore before found.closing }.text

/-- Tokens in which a name is replaced where it stands behind a token of a kind. -/
def replaceBehind (isLead isOld : SqlToken → Bool) (new : Text) (isBehind : Bool) :
    List SqlToken → List SqlToken
  | [] => []
  | token :: tokens =>
      (if isBehind && isOld token then { token with written := new } else token) ::
        replaceBehind isLead isOld new (isLead token) tokens

/-- The text of something with a table under another name. -/
def renameTable (object : StoredObject) (old new : Text) (text : Text) : Text :=
  let tokens := SqlToken.ofText text
  let leads : List Text :=
    match object.kind with
    | .table => ["table", "references"]
    | .index => ["on"]
    | _ => ["on", "from", "join", "into", "update", "table"]
  let isLead (token : SqlToken) : Bool := leads.any token.isWord || token.isSymbol ","
  SqlToken.span (replaceBehind isLead (isName old) (quotedName new) false tokens)

/-- The text of something with a column under another name. -/
def renameColumn (old new : Text) (isQuoted : Bool) (text : Text) : Text :=
  let shown (token : SqlToken) : Text :=
    if isQuoted || token.kind ≠ .word then quotedName new else new
  SqlToken.span ((SqlToken.ofText text).map fun token =>
    if isName old token then { token with written := shown token } else token)

end DefinitionText

namespace Database

/-- A page for something new: the first of the free ones that are listed, or else the page that lists
them, or a new one. -/
def takePage (database : Database) : Nat × Database :=
  match database.freePages with
  | [] => (database.pageCount + 1, { database with pageCount := database.pageCount + 1 })
  | [only] => (only, { database with freePages := [] })
  | lead :: page :: others =>
      let least := others.foldl min page
      (least, { database with freePages := lead :: (page :: others).erase least })

/-- Adds something to the list of what the database holds. -/
def note (database : Database) (kind : SqlObject) (name table : Text) (text : Option Text) :
    Database :=
  let (page, database) : Nat × Database :=
    match kind with
    | .table | .index => database.takePage
    | .view | .trigger => (0, database)
  { database with objects := database.objects ++ [{ kind, name, table, page, text }] }

/-- Whether something is listed. -/
def isNoted (database : Database) (kind : SqlObject) (name : Text) : Bool :=
  database.objects.any fun object => object.kind = kind && sameName object.name name

/-- Whether something that is listed is still there. -/
def holds (database : Database) (object : StoredObject) : Bool :=
  match object.kind with
  | .table => (database.table? object.name).isSome
  | .index => (database.index? object.name).isSome
  | .view => (database.view? object.name).isSome
  | .trigger => (database.trigger? object.name).isSome

/-- The list without what is gone.  The pages of it become free, the last one first. -/
def forgetGone (database : Database) : Database :=
  let gone := database.objects.filter fun object => !database.holds object
  let pages := (gone.map StoredObject.page).filter fun page => page ≠ 0
  { database with
    objects := database.objects.filter database.holds
    freePages := database.freePages ++ pages.mergeSort fun first second => second ≤ first }

/-- The indexes of the keys of a table that have pages of their own. -/
def keyIndexes (database : Database) (table : SqlTable) : List SqlIndex :=
  database.indexes.filter fun index =>
    index.implied && sameName index.table table.name &&
      (table.hasIds || index.columns? ≠ some table.primary)

/-- The list with the tables that are new, each with the indexes of its keys. -/
def noteTables (database : Database) (text : SqlTable → Option Text) : Database :=
  database.tables.foldl (fun database table =>
    if database.isNoted .table table.name then database
    else
      let database := database.note .table table.name table.name (text table)
      (database.keyIndexes table).foldl (fun database index =>
        database.note .index index.name table.name none) database) database

/-- The list with all that is new.  The text is that of the statement that made it. -/
def noteNew (database : Database) (tokens : List SqlToken) (statement : Statement) : Database :=
  let known : List (Text × Text) :=
    [("sqlite_sequence", "CREATE TABLE sqlite_sequence(name,seq)"),
      ("sqlite_stat1", "CREATE TABLE sqlite_stat1(tbl,idx,stat)")]
  let tableText (table : SqlTable) : Option Text :=
    match known.find? fun entry => entry.1 = table.name, statement with
    | some entry, _ => some entry.2
    | none, .createTableAs _ _ _ _ => some (DefinitionText.ofResult table)
    | none, _ => some (DefinitionText.kept "TABLE" tokens)
  let database := database.noteTables tableText
  match statement with
  | .createIndex text =>
      let kind : Text := if text.unique then "UNIQUE INDEX" else "INDEX"
      database.indexes.foldl (fun database index =>
        if index.implied || database.isNoted .index index.name then database
        else
          database.note .index index.name index.table (some (DefinitionText.kept kind tokens)))
        database
  | .createView _ _ _ _ _ =>
      database.views.foldl (fun database view =>
        if database.isNoted .view view.name then database
        else database.note .view view.name view.name (some (DefinitionText.kept "VIEW" tokens)))
        database
  | .createTrigger _ =>
      database.triggers.foldl (fun database trigger =>
        if database.isNoted .trigger trigger.name then database
        else
          database.note .trigger trigger.name trigger.table
            (some (DefinitionText.kept "TRIGGER" tokens))) database
  | _ => database

/-- The list with texts changed by a function of what they define. -/
def editTexts (database : Database) (edit : StoredObject → Text → Text) : Database :=
  { database with
    objects := database.objects.map fun object =>
      { object with text := object.text.map (edit object) } }

/-- The list after a table got another name. -/
def noteRenamed (database : Database) (old new : Text) : Database :=
  let keyLead : Text := ("sqlite_autoindex_" : Text) ++ old
  let renamed (object : StoredObject) : StoredObject :=
    if !sameName object.table old then object
    else if object.kind = .table then { object with name := new, table := new }
    else if object.text.isNone && object.name.toAsciiLower.startsWith keyLead.toAsciiLower then
      { object with
        name := ("sqlite_autoindex_" : Text) ++ new ++ object.name.drop keyLead.length, table := new }
    else { object with table := new }
  let edited := database.editTexts fun object => DefinitionText.renameTable object old new
  { edited with objects := edited.objects.map renamed }

/-- The list after a statement was performed on a database that was another one before. -/
def recorded (before : Database) (tokens : List SqlToken) (statement : Statement)
    (database : Database) : Database :=
  let isTable (name : Text) (object : StoredObject) : Bool :=
    object.kind = .table && sameName object.name name
  let edited : Database :=
    match statement with
    | .renameTable table newName => database.noteRenamed table.name newName
    | .addColumn table _ _ _ =>
        let column := (tokens.dropWhile fun token => !token.isWord "add").drop 1
        let column := if column.head?.any (SqlToken.isWord "column") then column.drop 1 else column
        database.editTexts fun object text =>
          if isTable table.name object then DefinitionText.addColumn column text else text
    | .dropColumn table column =>
        let position := ((before.table? table.name).bind fun found =>
          found.columnIndex? column).getD 0
        database.editTexts fun object text =>
          if isTable table.name object then DefinitionText.dropColumn position text else text
    | .renameColumn table column newName =>
        let isQuoted := (tokens.getLast?).any fun token => token.kind ≠ .word
        database.editTexts fun object text =>
          if sameName object.table table.name then
            DefinitionText.renameColumn column newName isQuoted text
          else text
    | _ => database
  match statement with
  | .rows _ | .tableInfo _ | .idle => database
  | _ =>
      let noted := edited.forgetGone.noteNew tokens statement
      if noted.objects = before.objects then noted else { noted with version := noted.version + 1 }

end Database

end EventForge
