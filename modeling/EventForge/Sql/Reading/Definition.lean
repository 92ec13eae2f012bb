import EventForge.Sql.Reading.Expression

/-!
# Reading the definitions of tables

The definition of a table lists columns, each with a type and rules, and behind them rules for the
whole table.  The elements in front of the place where a text breaks off are kept, since each of
them can be refused before the break is found; an element counts once the token behind it fits.
-/

namespace EventForge

/-- What can stand next in the definition of a table. -/
inductive DefinitionPlace
  /-- A column must follow. -/
  | column
  /-- Behind a column or one of its rules; the name of the next rule may be given. -/
  | columnRule (label : Option Text)
  /-- Behind a comma, where rules for the table can begin. -/
  | later
  /-- A rule for the table must follow. -/
  | tableRule (label : Option Text)
  /-- Behind a rule for the table. -/
  | behindRule (label : Option Text)
deriving DecidableEq, Repr

/-- Elements of a definition up to where it ends or breaks off, and the tokens behind them. -/
structure DefinitionPart where
  elements : List TableElement
  broken : Option Refusal
  rest : List SqlToken

namespace SqlReader

/-- Words that open a rule for the whole table. -/
def tableRuleWords : List Text := ["constraint", "primary", "unique", "check", "foreign"]

/-- A type without the words that announce a generated column. -/
def storedType (type : Text) : Text :=
  let back (text : Text) : Text := (text.reverse.dropWhile SqlToken.isLaterBlank).reverse
  let dropTail (tail text : Text) : Text :=
    if tail.length ≤ text.length && (text.toAsciiLower).endsWith tail then
      back (text.take (text.length - tail.length))
    else text
  if 16 ≤ type.length && (type.toAsciiLower).endsWith "always" then
    dropTail "generated" (back (type.take (type.length - 6)))
  else type

/-- A text, of which only a quotation that opens it is kept. -/
def unquoted (written : Text) : Text :=
  match written with
  | [] => []
  | mark :: rest =>
      let closing : Option CodePoint :=
        if mark = '\'' || mark = '"' || mark.val = 0x60 then some mark
        else if mark = '[' then some (CodePoint.ofChar ']')
        else none
      match closing.bind fun closing => SqlToken.quotation? closing (mark = closing) rest with
      | some found => found.1
      | none => written

/-- A type without the quotation marks at its ends, if it has no others within. -/
def unwrapped (type : Text) : Text :=
  let isMark (point : CodePoint) : Bool :=
    point = '\'' || point = '"' || point = '[' || point.val = 0x60
  let inner := (type.drop 1).dropLast
  if 3 ≤ type.length && type.head?.any isMark && !inner.any isMark then inner else type

/-- A column with its type. -/
def columnElement : SqlReader TableElement := do
  let name ← name
  return .column name (unquoted (unwrapped (storedType (← typeName))))

/-- A condition in parentheses that rows must meet. -/
def checkElement (ofColumn : Bool) (label : Option Text) : SqlReader TableElement := do
  need "("
  let (condition, tokens) ← spanned expression
  need ")"
  return .check (label.getD (unquoted (SqlToken.span tokens))) condition ofColumn

/-- Leaves out what happens to rows that refer to others. -/
def referenceRules : Nat → SqlReader Unit
  | 0 => refuse
  | fuel + 1 => do
      if ← word "match" then
        let _ ← name
        referenceRules fuel
      else if ← word "on" then
        if !(← word "insert") then
          if !(← word "delete") then words ["update"]
        if ← word "set" then
          if !(← word "null") then words ["default"]
        else if ← word "no" then words ["action"]
        else if !(← word "cascade") then words ["restrict"]
        referenceRules fuel

/-- Leaves out when references are checked. -/
def deferral : SqlReader Unit := do
  words ["deferrable"]
  if ← word "initially" then
    if !(← word "deferred") then words ["immediate"]

/-- The table and the columns that others refer to. -/
def referenceTarget : SqlReader (Text × List Text) := do
  let table ← name
  let targets ← enclosedNames
  referenceRules ((← count) + 1)
  return (table, targets)

/-- Whether keys are never given out twice. -/
def counted : SqlReader Bool := word "autoincrement"

/-- Whether the name of a way of storing a generated column stands here. -/
def atStorage : SqlReader Bool := do
  if ← atWord "indexed" then return false
  atBareName

/-- The value of a generated column. -/
def generatedElement : SqlReader TableElement := do
  need "("
  let value ← expression
  need ")"
  if ← atStorage then return .generated value (some (← bareName).2)
  return .generated value none

/-- A standard value: a constant, a name, or an expression in parentheses. -/
def standardValue : SqlReader SqlExpression := do
  if ← symbol "(" then
    let value ← expression
    need ")"
    return value
  if let some found ← negativeNumber? then return found
  let negative ← symbol "-"
  let positive ← if negative then pure false else symbol "+"
  let tokens ← get
  match tokens with
  | [] => refuse
  | token :: rest =>
      match if token.kind = .variable then none else constantOf? token with
      | some found =>
          set rest
          return if negative then .unary .negative found else found
      | none =>
          if negative || positive then refuse
          let (found, _) ← bareName
          let lowered := found.toAsciiLower
          if lowered = ("true" : Text) then return .constant (.integer 1)
          if lowered = ("false" : Text) then return .constant (.integer 0)
          return .constant (.text found)

/-- A standard value with its text, which goes without parentheses around it. -/
def standardElement : SqlReader TableElement := do
  let (value, tokens) ← spanned standardValue
  let written :=
    if tokens.head?.any (SqlToken.isSymbol "(") then SqlToken.span (tokens.drop 1).dropLast
    else SqlToken.span tokens
  return .standard value written

/-- A rule for the column in front. -/
def columnRule (label : Option Text) : SqlReader (TableElement × DefinitionPlace) := do
  let next : DefinitionPlace := .columnRule label
  if ← word "constraint" then return (.remark, .columnRule (some (← name)))
  if ← word "default" then return (← standardElement, next)
  if ← word "null" then
    let _ ← conflictRule
    return (.remark, next)
  if ← word "not" then
    if ← word "null" then return (.notNull (← conflictRule), next)
    deferral
    return (.remark, next)
  if ← word "primary" then
    words ["key"]
    let descending ← descending
    let resolution ← conflictRule
    return (.primaryKey descending (← counted) resolution, next)
  if ← word "unique" then return (.unique (← conflictRule), next)
  if ← word "check" then return (← checkElement true label, next)
  if ← word "references" then
    let (table, targets) ← referenceTarget
    return (.foreignKey none table targets, next)
  if ← word "collate" then
    match ← plainName with
    | some found => return (.collate found, next)
    | none => refuse
  if ← word "generated" then
    words ["always", "as"]
    return (← generatedElement, next)
  if ← word "as" then return (← generatedElement, next)
  deferral
  return (.remark, next)

/-- A rule for the whole table. -/
def tableRule (label : Option Text) : SqlReader (TableElement × DefinitionPlace) := do
  let next : DefinitionPlace := .behindRule label
  if ← word "constraint" then return (.remark, .behindRule (some (← name)))
  if ← word "primary" then
    words ["key"]
    need "("
    let terms ← list orderTerm
    let counted ← counted
    need ")"
    return (.key true terms counted (← conflictRule), next)
  if ← word "unique" then
    let terms ← enclosed orderTerm
    return (.key false terms false (← conflictRule), next)
  if ← word "check" then
    let element ← checkElement false label
    let _ ← conflictRule
    return (element, next)
  words ["foreign", "key"]
  let columns ← enclosed name
  words ["references"]
  let (table, targets) ← referenceTarget
  if ← word "not" then deferral
  else if ← atWord "deferrable" then deferral
  return (.foreignKey (some columns) table targets, next)

/-- Whether a statement ends here. -/
def atEnd : SqlReader Bool := do return (← get).isEmpty || (← atSymbol ";")

/-- The element that stands next, if the definition does not end here.  Elements in parentheses end
before the closing one; those of a single column end with the statement. -/
def element (single : Bool) (place : DefinitionPlace) :
    SqlReader (Option (TableElement × DefinitionPlace)) := do
  match place with
  | .column => return some (← columnElement, .columnRule none)
  | .columnRule label =>
      if single then
        if ← atEnd then return none
      else
        if ← symbol "," then return some (.remark, .later)
        if ← atSymbol ")" then return none
      return some (← columnRule label)
  | .later =>
      if ← atWords tableRuleWords then return some (← tableRule none)
      return some (← columnElement, .columnRule none)
  | .tableRule label => return some (← tableRule label)
  | .behindRule label =>
      if ← symbol "," then return some (.remark, .tableRule none)
      if ← atSymbol ")" then return none
      return some (← tableRule label)

/-- The elements from a place on. -/
def elements (single : Bool) : Nat → DefinitionPlace → List SqlToken → DefinitionPart
  | 0, _, tokens => { elements := [], broken := none, rest := tokens }
  | fuel + 1, place, tokens =>
      match element single place tokens with
      | .error refusal => { elements := [], broken := some refusal, rest := tokens }
      | .ok (none, rest) => { elements := [], broken := none, rest }
      | .ok (some (found, next), rest) =>
          let later := elements single fuel next rest
          if later.broken.any fun refusal => refusal.left = rest.length then
            { later with elements := [] }
          else { later with elements := found :: later.elements }

/-- An option of a table, which is refused at once where another one or the end follows. -/
def tableOption : SqlReader TableOption := do
  let without ← word "without"
  let (_, tokens) ← spanned name
  let written := SqlToken.span tokens
  let lowered := written.toAsciiLower
  if without && lowered = ("rowid" : Text) then return .withoutIds
  if !without && lowered = ("strict" : Text) then return .strict
  let isBehind := (← atSymbol ",") || (← atEnd)
  if isBehind then refuseFor (.unknownOption written) else refuse

/-- The options of a table up to the end of its definition. -/
def tableOptions : SqlReader (List TableOption) := do
  if ← atEnd then return []
  let _ ← symbol ","
  list tableOption

end SqlReader

end EventForge
