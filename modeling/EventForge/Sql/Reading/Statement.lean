import EventForge.Sql.Reading.Definition

/-!
# Reading whole statements

A text holds one statement; a semicolon may stand behind it.  A text without tokens is a statement
that does nothing.
-/

namespace EventForge

namespace SqlReader

/-- The name behind `pragma table_info`: a name, a word that serves as one here, or a number. -/
def pragmaValue : SqlReader Text := do
  match ← get with
  | [] => refuse
  | token :: rest =>
      if token.isWord "on" || token.isWord "delete" || token.isWord "default" then
        set rest
        return token.written
      match nameOf? token with
      | some found =>
          set rest
          return found
      | none =>
          let (_, tokens) ← spanned signedNumber
          return SqlToken.span tokens

/-- What `pragma` stands in front of. -/
def pragma : SqlReader Statement := do
  let setting ← objectName
  if ← symbol "(" then
    let value ← pragmaValue
    need ")"
    return if setting.name.toAsciiLower = ("table_info" : Text) then .tableInfo value else .idle
  if ← symbol "=" then
    let _ ← pragmaValue
  return .idle

/-- The definition of a table behind its name. -/
def tableBehind (temporary ifAbsent : Bool) (name : ObjectName) : SqlReader Statement :=
  fun tokens =>
    match need "(" tokens with
    | .error refusal => .error refusal
    | .ok ((), inner) =>
        let part := elements false (inner.length + 1) .column inner
        let text (ending : Except SqlRefusal (List TableOption)) : Statement :=
          .createTable { temporary, ifAbsent, name, elements := part.elements, ending }
        match part.broken with
        | some refusal => .ok (text (.error refusal.fault), [])
        | none =>
            match (do need ")"; tableOptions : SqlReader (List TableOption)) part.rest with
            | .error refusal => .ok (text (.error refusal.fault), [])
            | .ok (options, rest) =>
                if rest.isEmpty || rest.head?.any (SqlToken.isSymbol ";") then
                  .ok (text (.ok options), rest)
                else .ok (text (.error (refusal rest)), [])

/-- What `create table` stands in front of. -/
def createTable (temporary : Bool) : SqlReader Statement := do
  let ifAbsent ← ifAbsent
  let name ← objectName
  if ← word "as" then return .createTableAs temporary ifAbsent name (← query)
  tableBehind temporary ifAbsent name

/-- What `create index` stands in front of. -/
def createIndex (unique : Bool) : SqlReader Statement := do
  let ifAbsent ← ifAbsent
  let index ← objectName
  words ["on"]
  let table ← name
  let terms ← enclosed orderTerm
  let condition ← if ← word "where" then some <$> expression else pure none
  return .createIndex { unique, ifAbsent, name := index, table, terms, condition }

/-- What `create view` stands in front of. -/
def createView (temporary : Bool) : SqlReader Statement := do
  let ifAbsent ← ifAbsent
  let view ← objectName
  let columns ← enclosedNames
  words ["as"]
  let (query, tokens) ← spanned query
  if tokens.any fun token => token.kind = .variable then
    refuseFor (.other "parameters are not allowed in views")
  return .createView temporary ifAbsent view columns query

/-- Assignments behind `set`. -/
def assignment : SqlReader (List Text × SqlExpression) := do
  let columns ← if ← atSymbol "(" then enclosed name else List.singleton <$> name
  need "="
  return (columns, ← expression)

/-- The columns behind `returning`. -/
def returning : SqlReader (List ResultColumn) := do
  if ← word "returning" then list resultColumn else return []

/-- A condition behind `where`, if there is one. -/
def condition : SqlReader (Option SqlExpression) := do
  if ← word "where" then some <$> expression else return none

/-- The order behind `order by`, if there is one. -/
def order : SqlReader (List OrderTerm) := do
  if ← word "order" then
    words ["by"]
    list orderTerm
  else return []

/-- What is done about conflicts with keys. -/
def upserts : Nat → SqlReader (List Upsert)
  | 0 => refuse
  | fuel + 1 => do
      if !(← word "on") then return []
      words ["conflict"]
      let target ←
        if ← atSymbol "(" then
          let terms ← enclosed orderTerm
          pure (some (terms, ← condition))
        else pure none
      words ["do"]
      let changes ←
        if ← word "nothing" then pure none
        else
          words ["update", "set"]
          let changes ← list assignment
          pure (some (changes, ← condition))
      if target.isNone then return [{ target, changes }]
      return { target, changes } :: (← upserts fuel)

/-- What settles a conflict, behind `or`. -/
def orResolution : SqlReader (Option Resolution) := do
  if ← word "or" then some <$> resolution else return none

/-- An insertion behind its first words.  Within a trigger it is kept short. -/
def insertionBehind (short : Bool) (sharing : List CommonTable) (resolution : Option Resolution) :
    SqlReader RowStatement := do
  words ["into"]
  let table ← objectName
  let otherName ← if ← wordIf (!short) "as" then some <$> name else pure none
  let columns ← if ← atSymbol "(" then some <$> enclosed name else pure none
  if ← wordIf (!short) "default" then
    words ["values"]
    return .insert { resolution, table, otherName, columns, rows := none, returning := ← returning }
  if !(← atWords queryWords) then refuse
  let query ← query
  let rows := if sharing.isEmpty then query else .sharing sharing query
  let upserts ← upserts ((← count) + 1)
  let returning ← if short then pure [] else returning
  return .insert { resolution, table, otherName, columns, rows := some rows, upserts, returning }

/-- A change of rows behind its first word.  Within a trigger it is kept short. -/
def updateBehind (short : Bool) (sharing : List CommonTable) : SqlReader RowStatement := do
  let resolution ← orResolution
  let table ← objectName
  let otherName ← if ← wordIf (!short) "as" then some <$> name else pure none
  indexHint
  words ["set"]
  let changes ← list assignment
  let sources ← if ← word "from" then sourcesAt (← fuel) {} else pure []
  let condition ← condition
  let found : Update := { resolution, sharing, table, otherName, changes, sources, condition }
  if short then return .update found
  let returning ← returning
  let order ← order
  let (limit, offset) ← limit
  return .update { found with order, limit, offset, returning }

/-- A removal of rows behind its first word.  Within a trigger it is kept short. -/
def deletionBehind (short : Bool) (sharing : List CommonTable) : SqlReader RowStatement := do
  words ["from"]
  let table ← objectName
  let otherName ← if ← wordIf (!short) "as" then some <$> name else pure none
  indexHint
  let condition ← condition
  let found : Deletion := { sharing, table, otherName, condition }
  if short then return .delete found
  let returning ← returning
  let order ← order
  let (limit, offset) ← limit
  return .delete { found with order, limit, offset, returning }

/-- A statement that reads or changes rows. -/
def rowStatement : SqlReader RowStatement := do
  let sharing ← commonTables
  if ← word "insert" then insertionBehind false sharing (← orResolution)
  else if ← word "replace" then insertionBehind false sharing (some .replace)
  else if ← word "update" then updateBehind false sharing
  else if ← word "delete" then deletionBehind false sharing
  else if sharing.isEmpty then return .query (← query)
  else
    let query ← compoundAt (← fuel)
    return .query (.sharing sharing query)

/-- A step of a trigger. -/
def triggerStep : SqlReader RowStatement := do
  if ← word "insert" then insertionBehind true [] (← orResolution)
  else if ← word "replace" then insertionBehind true [] (some .replace)
  else if ← word "update" then updateBehind true []
  else if ← word "delete" then deletionBehind true []
  else return .query (← query)

/-- A reason to refuse the steps of a trigger. -/
def qualifiedNames : SqlRefusal :=
  .other (("qualified table names are not allowed on INSERT, UPDATE, and DELETE " : Text) ++
    "statements within triggers")

/-- The steps of a trigger, each with a semicolon behind it, up to `end`. -/
def triggerSteps : Nat → SqlReader (List RowStatement)
  | 0 => refuse
  | fuel + 1 => do
      let step ← triggerStep
      if step.database.isSome then refuseFor qualifiedNames
      need ";"
      if ← word "end" then return [step]
      return step :: (← triggerSteps fuel)

/-- What happens to a table when a trigger is due. -/
def triggerEvent : SqlReader TriggerEvent := do
  if ← word "insert" then return .insert
  if ← word "delete" then return .delete
  words ["update"]
  if ← word "of" then return .update (some (← list name))
  return .update none

/-- What `create trigger` stands in front of. -/
def createTrigger (temporary : Bool) : SqlReader Statement := do
  let ifAbsent ← ifAbsent
  let trigger ← objectName
  let time ←
    if ← word "before" then pure TriggerTime.before
    else if ← word "after" then pure .after
    else if ← word "instead" then
      words ["of"]
      pure .instead
    else pure .before
  let event ← triggerEvent
  words ["on"]
  let table ← objectName
  if ← word "for" then words ["each", "row"]
  let condition ← if ← word "when" then some <$> expression else pure none
  words ["begin"]
  let (steps, tokens) ← spanned (do triggerSteps ((← count) + 1))
  if tokens.any fun token => token.kind = .variable then
    refuseFor (.other "trigger cannot use variables")
  return .createTrigger
    { temporary, ifAbsent, name := trigger, time, event, table, condition, steps }

/-- What `create` stands in front of. -/
def create : SqlReader Statement := do
  if ← word "unique" then
    words ["index"]
    createIndex true
  else if ← word "index" then createIndex false
  else
    let short ← word "temp"
    let temporary ← if short then pure true else word "temporary"
    if ← word "view" then createView temporary
    else if ← word "trigger" then createTrigger temporary
    else
      words ["table"]
      createTable temporary

/-- What `alter table` stands in front of. -/
def alterTable : SqlReader Statement := do
  let table ← objectName
  if ← word "drop" then
    let _ ← word "column"
    return .dropColumn table (← name)
  else if ← word "rename" then
    if ← word "to" then return .renameTable table (← name)
    let _ ← word "column"
    let column ← name
    words ["to"]
    return .renameColumn table column (← name)
  else
    words ["add"]
    let _ ← word "column"
    let tokens ← get
    let part := elements true (tokens.length + 1) .column tokens
    set (if part.broken.isSome then [] else part.rest)
    return .addColumn table part.elements (part.broken.map fun refusal => refusal.fault) false

/-- What `drop` stands in front of. -/
def drop : SqlReader Statement := do
  let kind ←
    if ← word "index" then pure SqlObject.index
    else if ← word "view" then pure .view
    else if ← word "trigger" then pure .trigger
    else
      words ["table"]
      pure .table
  let ifPresent ← ifPresent
  return .drop kind ifPresent (← objectName)

/-- A statement that neither reads nor changes tables: all of its tokens are left out. -/
def idle : SqlReader Statement := do
  let tokens ← get
  set (tokens.dropWhile fun token => !token.isSymbol ";")
  return .idle

/-- Words that open statements without effect on tables. -/
def idleWords : List Text := [
  "attach", "begin", "commit", "detach", "end", "explain", "reindex", "release",
  "rollback", "savepoint", "vacuum"]

/-- A statement. -/
def statement : SqlReader Statement := do
  if ← word "pragma" then pragma
  else if ← word "create" then create
  else if ← word "alter" then
    words ["table"]
    alterTable
  else if ← word "drop" then drop
  else if ← word "analyze" then
    if ← atEnd then return .analyze none
    return .analyze (some (← objectName))
  else if ← atWords idleWords then idle
  else if ← atWords ["insert", "replace", "update", "delete", "select", "values", "with"] then
    return .rows (← rowStatement)
  else refuse

/-- Whether more stands behind a statement and its semicolon. -/
def finish : List SqlToken → Except SqlRefusal Bool
  | [] => .ok false
  | token :: tokens =>
      if token.isSymbol ";" then .ok !tokens.isEmpty
      else .error (refusal (token :: tokens))

end SqlReader

/-- A statement at the front of a text. -/
structure FirstStatement where
  statement : Statement
  tokens : List SqlToken := []
  /-- The names of its parameters, if they have names. -/
  parameters : List (Option Text) := []
  /-- Whether a semicolon stands behind it. -/
  isEnded : Bool := false
  /-- Whether more stands behind it. -/
  isFollowed : Bool := false

namespace FirstStatement

/-- The greatest position of a parameter. -/
def lastParameter : Nat := 250000

/-- The number that digits name. -/
def numberOf (digits : Text) : Nat :=
  (digits.filterMap CodePoint.hexValue?).foldl (fun sum digit => 10 * sum + digit) 0

/-- The parameters up to a token, from those in front of it.  A question mark with a number stands
for the parameter at that position, and one without a number for the next parameter. -/
def addParameter (names : List (Option Text)) (token : SqlToken) :
    Except SqlRefusal (List (Option Text)) :=
  let name := token.written.drop 1
  if token.kind ≠ .variable then .ok names
  else if name.isEmpty then .ok (names ++ [none])
  else if token.written.head? = some (CodePoint.ofChar '?') then
    let position := numberOf name
    if position = 0 || lastParameter < position then
      .error (.other (("variable number must be between ?1 and ?" : Text) ++
        Text.ofNat lastParameter))
    else
      let extended := names ++ List.replicate (position - names.length) none
      .ok (extended.set (position - 1) (some name))
  else if names.contains (some name) then .ok names
  else .ok (names ++ [some name])

/-- The first statement of some tokens. -/
def ofTokens (tokens : List SqlToken) : Except SqlRefusal FirstStatement :=
  match tokens.dropWhile (SqlToken.isSymbol ";") with
  | [] => .ok { statement := .idle }
  | tokens =>
      match SqlReader.statement tokens with
      | .error refusal => .error refusal.fault
      | .ok (statement, rest) => do
          let isFollowed ← SqlReader.finish rest
          let own := tokens.take (tokens.length - rest.length)
          return {
            statement, tokens := own, parameters := ← own.foldlM addParameter []
            isEnded := !rest.isEmpty, isFollowed }

/-- Whether a text ends within a remark, so that nothing can be written behind it. -/
def isOpen (text : Text) : Bool :=
  let isEnding (point : CodePoint) : Bool := point = ';' || SqlToken.isLaterBlank point
  let trimmed := (text.reverse.dropWhile isEnding).reverse
  !(SqlToken.ofText (trimmed ++ ")")).getLast?.any (SqlToken.isSymbol ")")

/-- The first statement of a text. -/
def ofText (text : Text) : Except SqlRefusal FirstStatement := do
  let first ← ofTokens (SqlToken.ofText text)
  match first.statement with
  | .addColumn table elements broken _ =>
      return { first with
        statement := .addColumn table elements broken (!first.isEnded && isOpen text) }
  | _ => return first

end FirstStatement

end EventForge
