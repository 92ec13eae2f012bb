import EventForge.Sql.Reading.Basic

/-!
# Reading expressions and queries

Operators bind with twelve strengths, from `or` to the signs of numbers; operators of one strength
are read from left to right.  Each reader takes a fuel that is greater than the depth of what it can
read.
-/

namespace EventForge

namespace SqlReader

/-- How strongly an operator binds. -/
abbrev Strength := Nat

def andStrength : Strength := 2

/-- The strength of `not` in front of its operand. -/
def notStrength : Strength := 3

/-- The strength of equality and of all comparisons that are written with words. -/
def equalityStrength : Strength := 4

def collateStrength : Strength := 11

/-- The strength of signs. -/
def signStrength : Strength := 12

/-- Operators between two operands that are symbols, with their strengths. -/
def symbolOperators : List (Text × Strength × BinaryOperator) := [
  ("=", 4, .equal), ("==", 4, .equal), ("<>", 4, .unequal), ("!=", 4, .unequal),
  ("<", 5, .less), ("<=", 5, .lessEqual), (">", 5, .greater), (">=", 5, .greaterEqual),
  ("&", 7, .bitAnd), ("|", 7, .bitOr), ("<<", 7, .shiftLeft), (">>", 7, .shiftRight),
  ("+", 8, .add), ("-", 8, .subtract), ("*", 9, .multiply), ("/", 9, .divide),
  ("%", 9, .remainder), ("||", 10, .concatenate), ("->", 10, .extract), ("->>", 10, .extractValue)]

/-- Operators between two operands that are words, with their strengths. -/
def wordOperators : List (Text × Strength × BinaryOperator) :=
  [("or", 1, .or), ("and", 2, .and)]

/-- The operator between two operands that a token is. -/
def binaryOperator? (token : SqlToken) : Option (Strength × BinaryOperator) :=
  match token.kind with
  | .symbol =>
      (symbolOperators.find? fun entry => entry.1 = token.written).map fun entry => entry.2
  | .word =>
      (wordOperators.find? fun entry => token.isWord entry.1).map fun entry => entry.2
  | _ => none

/-- Takes an operator between two operands that binds at least with a strength. -/
def takeOperator (strength : Strength) : SqlReader (Option (Strength × BinaryOperator))
  | [] => .ok (none, [])
  | token :: tokens =>
      match binaryOperator? token with
      | some found =>
          if strength ≤ found.1 then .ok (some found, tokens) else .ok (none, token :: tokens)
      | none => .ok (none, token :: tokens)

/-- The number that digits in base sixteen name. -/
def hexValue (digits : Text) : Nat :=
  (digits.filterMap CodePoint.hexValue?).foldl (fun sum digit => sum * 16 + digit) 0

/-- The number that a token names, with a minus sign or without.  Digits in base sixteen name sixty-four
bits. -/
def numberOf (negative : Bool) (written : Text) : SqlExpression :=
  let signed : Text := if negative then CodePoint.ofChar '-' :: written else written
  if SqlToken.isHexNumber written then
    let size := hexValue (written.drop 2)
    if twoTo 64 ≤ size || (negative && size = twoTo 63) then .oversized signed
    else
      let value : Int := Int.bmod size (twoTo 64)
      .constant (.integer (if negative then -value else value))
  else .constant ((Cell.number? signed).getD .null)

/-- The value that a token names by itself. -/
def constantOf? (token : SqlToken) : Option SqlExpression :=
  match token.kind with
  | .number => some (numberOf false token.written)
  | .string content => some (.constant (.text content))
  | .blob bytes => some (.constant (.blob bytes))
  | .variable => some (.parameter (token.written.drop 1))
  | .word =>
      let lowered := token.written.toAsciiLower
      if lowered = ("null" : Text) then some (.constant .null)
      else if lowered = ("current_time" : Text) || lowered = ("current_date" : Text) ||
          lowered = ("current_timestamp" : Text) then some (.call lowered false [])
      else none
  | _ => none

/-- Takes a value that one token names. -/
def constant? : SqlReader (Option SqlExpression)
  | [] => .ok (none, [])
  | token :: tokens =>
      match constantOf? token with
      | some found => .ok (some found, tokens)
      | none => .ok (none, token :: tokens)

/-- Takes a number behind a minus sign. -/
def negativeNumber? : SqlReader (Option SqlExpression)
  | sign :: token :: tokens =>
      if sign.isSymbol "-" && token.kind = .number then
        .ok (some (numberOf true token.written), tokens)
      else .ok (none, sign :: token :: tokens)
  | tokens => .ok (none, tokens)

/-- Whether a text in double quotes stands first. -/
def atQuotes : SqlReader Bool := fun tokens =>
  .ok (tokens.head?.any fun token => token.written.head? == some (CodePoint.ofChar '"'), tokens)

/-- Whether a text in single quotes stands first. -/
def atText : SqlReader Bool := fun tokens =>
  .ok (tokens.head?.any fun token => match token.kind with | .string _ => true | _ => false, tokens)

/-- Whether the name of a function could stand first. -/
def atBareName : SqlReader Bool := fun tokens =>
  .ok ((tokens.head?.bind bareName?).isSome, tokens)

/-- Functions that compare with a pattern. -/
def patternWords : List Text := ["like", "glob", "regexp", "match"]

/-- Takes the name of a function that compares with a pattern. -/
def patternWord? : SqlReader (Option Text)
  | [] => .ok (none, [])
  | token :: tokens =>
      if patternWords.any fun word => token.isWord word then .ok (some token.written, tokens)
      else .ok (none, token :: tokens)

/-- Words that open a query. -/
def queryWords : List Text := ["select", "values", "with"]

/-- Another name, if there is one. -/
def otherName : SqlReader (Option Text) := do
  if ← word "as" then return some (← name)
  plainName

/-- The kind of a join behind its first word. -/
def joinKindOf (words : List Text) : JoinKind :=
  let has (word : Text) : Bool := words.any fun found => found.toAsciiLower = word
  { keepsFirst := has "left" || has "full", keepsSecond := has "right" || has "full"
    natural := has "natural" }

/-- Takes what joins another source: a comma, or words that end with `join`. -/
def joinKind? : SqlReader (Option JoinKind) := do
  if ← symbol "," then return some {}
  if ← word "join" then return some {}
  if ← atWords ["cross", "full", "inner", "left", "natural", "outer", "right"] then
    let first ← name
    if ← word "join" then return some (joinKindOf [first])
    let second ← name
    if ← word "join" then return some (joinKindOf [first, second])
    let third ← name
    words ["join"]
    return some (joinKindOf [first, second, third])
  return none

/-- Leaves out which index is to be used. -/
def indexHint : SqlReader Unit := do
  if (← atWord "indexed") && (← nextIsWord "by") then
    words ["indexed", "by"]
    let _ ← name
  else if (← atWord "not") && (← nextIsWord "indexed") then words ["not", "indexed"]

def compoundOperator? : SqlReader (Option CompoundOperator) := do
  if ← word "union" then
    if ← word "all" then return some .unionAll
    return some .union
  if ← word "intersect" then return some .intersect
  if ← word "except" then return some .except
  return none

/-- Leaves out whether a common table is to be kept. -/
def keepingHint : SqlReader Unit := do
  if ← word "materialized" then return ()
  if (← atWord "not") && (← nextIsWord "materialized") then words ["not", "materialized"]

mutual

/-- An expression whose operators bind at least with a strength. -/
def expressionAt : Nat → Strength → SqlReader SqlExpression
  | 0, _ => refuse
  | fuel + 1, strength => do operatorsBehind fuel strength (← operandAt fuel)

/-- Operators and operands behind the first operand. -/
def operatorsBehind : Nat → Strength → SqlExpression → SqlReader SqlExpression
  | 0, _, _ => refuse
  | fuel + 1, strength, first => do
      match ← takeOperator strength with
      | some (found, operator) =>
          let second ← expressionAt fuel (found + 1)
          operatorsBehind fuel strength (.binary operator first second)
      | none =>
          if ← wordIf (strength ≤ collateStrength) "collate" then
            match ← plainName with
            | some collation => operatorsBehind fuel strength (.collate first collation)
            | none => refuse
          else if ← wordIf (strength ≤ notStrength) "not" then
            if ← word "null" then operatorsBehind fuel strength (.unary .notNull first)
            else
              match ← comparisonBehind fuel first with
              | some compared => operatorsBehind fuel strength (.unary .not compared)
              | none => refuse
          else if strength ≤ equalityStrength then
            if ← word "isnull" then operatorsBehind fuel strength (.unary .isNull first)
            else if ← word "notnull" then operatorsBehind fuel strength (.unary .notNull first)
            else if ← word "is" then
              let negated ← word "not"
              let distinct ← word "distinct"
              if distinct then words ["from"]
              let second ← expressionAt fuel (equalityStrength + 1)
              let operator := if negated = distinct then BinaryOperator.is else .isNot
              operatorsBehind fuel strength (.binary operator first second)
            else
              match ← comparisonBehind fuel first with
              | some compared => operatorsBehind fuel strength compared
              | none => return first
          else return first

/-- Alternatives behind a lower bound, which itself holds no `and`. -/
def alternativesBehind : Nat → SqlExpression → SqlReader SqlExpression
  | 0, _ => refuse
  | fuel + 1, first => do
      if ← word "or" then
        alternativesBehind fuel (.binary .or first (← expressionAt fuel andStrength))
      else return first

/-- A comparison that `not` can stand in front of, behind its first operand. -/
def comparisonBehind : Nat → SqlExpression → SqlReader (Option SqlExpression)
  | 0, _ => refuse
  | fuel + 1, first => do
      if ← word "between" then
        let low ← alternativesBehind fuel (← expressionAt fuel notStrength)
        words ["and"]
        return some (.between first low (← expressionAt fuel (equalityStrength + 1)))
      else if ← word "in" then
        if ← symbol "(" then
          if ← atWords queryWords then
            let query ← queryAt fuel
            need ")"
            return some (.isAmongRows first query)
          else if ← symbol ")" then return some (.constant (.integer 0))
          else
            let items ← list (expressionAt fuel 0)
            need ")"
            return some (.isAmong first items)
        else
          let table ← objectName
          let values ← valuesAt fuel
          return some (.isAmongRows first (.select false [.all]
            [.joined {} (.table table.database table.name none values) none []] none [] none))
      else
        match ← patternWord? with
        | none => return none
        | some function =>
            let pattern ← expressionAt fuel (equalityStrength + 1)
            if ← word "escape" then
              let escape ← expressionAt fuel (equalityStrength + 1)
              return some (.matches function first pattern (some escape))
            return some (.matches function first pattern none)

/-- What stands in front of the first operator: signs with an operand, a value, a column, a call or
something in parentheses. -/
def operandAt : Nat → SqlReader SqlExpression
  | 0 => refuse
  | fuel + 1 => do
      if let some found ← negativeNumber? then return found
      if ← word "not" then return .unary .not (← expressionAt fuel notStrength)
      if ← symbol "-" then return .unary .negative (← expressionAt fuel signStrength)
      if ← symbol "+" then return .unary .positive (← expressionAt fuel signStrength)
      if ← symbol "~" then return .unary .complement (← expressionAt fuel signStrength)
      if ← symbol "(" then parenthesesAt fuel
      else if ← word "case" then casesAt fuel
      else if ← word "cast" then
        need "("
        let value ← expressionAt fuel 0
        words ["as"]
        let type ← typeName
        need ")"
        return .cast value type
      else if ← word "exists" then
        need "("
        let query ← queryAt fuel
        need ")"
        return .exists query
      else if ← word "raise" then
        need "("
        let found ← resolution
        if found = .replace then refuse
        else if found = .ignore then
          need ")"
          return .raise .ignore []
        else
          need ","
          let message ← name
          need ")"
          return .raise found message
      else namedAt fuel

/-- What stands behind an opening parenthesis. -/
def parenthesesAt : Nat → SqlReader SqlExpression
  | 0 => refuse
  | fuel + 1 => do
      if ← atWords queryWords then
        let query ← queryAt fuel
        need ")"
        return .scalar query
      let items ← list (expressionAt fuel 0)
      need ")"
      match items with
      | [only] => return only
      | items => return .row items

/-- The branches behind `case`. -/
def casesAt : Nat → SqlReader SqlExpression
  | 0 => refuse
  | fuel + 1 => do
      let subject ←
        if ← atWord "when" then pure none else some <$> expressionAt fuel 0
      let branches ← branchesAt fuel
      let otherwise ← if ← word "else" then some <$> expressionAt fuel 0 else pure none
      words ["end"]
      return .cases subject branches otherwise

def branchesAt : Nat → SqlReader (List (SqlExpression × SqlExpression))
  | 0 => refuse
  | fuel + 1 => do
      words ["when"]
      let condition ← expressionAt fuel 0
      words ["then"]
      let value ← expressionAt fuel 0
      if ← atWord "when" then return (condition, value) :: (← branchesAt fuel)
      return [(condition, value)]

/-- A value, a column or a call. -/
def namedAt : Nat → SqlReader SqlExpression
  | 0 => refuse
  | fuel + 1 => do
      if !((← atText) && (← nextIsSymbol ".")) then
        if let some found ← constant? then return found
      let quoted ← atQuotes
      let isBare ← atBareName
      let first ← name
      if ← symbol "." then
        let second ← name
        if ← symbol "." then return .column [first, second, ← name] false
        return .column [first, second] false
      if ← symbolIf isBare "(" then
        if ← symbol "*" then
          need ")"
          return .callOnAll first
        if ← symbol ")" then return .call first false []
        let distinct ← word "distinct"
        let _ ← word "all"
        let arguments ← list (expressionAt fuel 0)
        need ")"
        return .call first distinct arguments
      return .column [first] quoted

/-- A query with its common tables. -/
def queryAt : Nat → SqlReader SqlQuery
  | 0 => refuse
  | fuel + 1 => do
      let tables ← commonTablesAt fuel
      let query ← compoundAt fuel
      return if tables.isEmpty then query else .sharing tables query

/-- The common tables behind `with`, if there are any. -/
def commonTablesAt : Nat → SqlReader (List CommonTable)
  | 0 => refuse
  | fuel + 1 => do
      if ← word "with" then
        let _ ← word "recursive"
        list (do
          let found ← name
          let columns ← enclosedNames
          words ["as"]
          keepingHint
          need "("
          let query ← queryAt fuel
          need ")"
          return .named found columns query)
      else return []

/-- Queries between which compound operators stand, with their order and limit. -/
def compoundAt : Nat → SqlReader SqlQuery
  | 0 => refuse
  | fuel + 1 => do
      let query ← compoundBehind fuel (← coreAt fuel)
      let terms ←
        if ← word "order" then
          words ["by"]
          list (orderTermAt fuel)
        else pure []
      let (limit, offset) ← limitAt fuel
      return if terms.isEmpty && limit.isNone then query else .ordered query terms limit offset

/-- The limit of the number of rows and how many are left out, if they are given. -/
def limitAt : Nat → SqlReader (Option SqlExpression × Option SqlExpression)
  | 0 => refuse
  | fuel + 1 => do
      if !(← word "limit") then return (none, none)
      let first ← expressionAt fuel 0
      if ← word "offset" then return (some first, some (← expressionAt fuel 0))
      if ← symbol "," then return (some (← expressionAt fuel 0), some first)
      return (some first, none)

/-- A term of an order. -/
def orderTermAt : Nat → SqlReader OrderTerm
  | 0 => refuse
  | fuel + 1 => do
      let value ← expressionAt fuel 0
      let descending ← descending
      if ← word "nulls" then
        if ← word "first" then return .by value descending (some false)
        words ["last"]
        return .by value descending (some true)
      return .by value descending none

def compoundBehind : Nat → SqlQuery → SqlReader SqlQuery
  | 0, _ => refuse
  | fuel + 1, first => do
      match ← compoundOperator? with
      | none => return first
      | some operator =>
          let second ← coreAt fuel
          compoundBehind fuel (.compound operator first second)

/-- A query without compound operators. -/
def coreAt : Nat → SqlReader SqlQuery
  | 0 => refuse
  | fuel + 1 => do
      if ← word "values" then return .values (← list (enclosed (expressionAt fuel 0)))
      words ["select"]
      let distinct ← word "distinct"
      if !distinct then
        let _ ← word "all"
      let columns ← list (resultColumnAt fuel)
      let sources ← if ← word "from" then sourcesAt fuel {} else pure []
      let condition ← if ← word "where" then some <$> expressionAt fuel 0 else pure none
      let groups ←
        if ← word "group" then
          words ["by"]
          list (expressionAt fuel 0)
        else pure []
      let having ← if ← word "having" then some <$> expressionAt fuel 0 else pure none
      return .select distinct columns sources condition groups having

/-- A column of the rows that a query makes. -/
def resultColumnAt : Nat → SqlReader ResultColumn
  | 0 => refuse
  | fuel + 1 => do
      if ← symbol "*" then return .all
      let tokens ← get
      match tokens with
      | table :: dot :: star :: rest =>
          if dot.isSymbol "." && star.isSymbol "*" then
            match nameOf? table with
            | some found =>
                set rest
                return .allOf found
            | none => refuse
          else valueColumnAt fuel
      | _ => valueColumnAt fuel

/-- A value among the columns that a query makes. -/
def valueColumnAt : Nat → SqlReader ResultColumn
  | 0 => refuse
  | fuel + 1 => do
      let (value, tokens) ← spanned (expressionAt fuel 0)
      return .value value (← otherName) (SqlToken.span tokens)

/-- Sources of rows; the first one is joined in the given way. -/
def sourcesAt : Nat → JoinKind → SqlReader (List JoinedSource)
  | 0, _ => refuse
  | fuel + 1, kind => do
      let source ← sourceAt fuel
      let condition ← if ← word "on" then some <$> expressionAt fuel 0 else pure none
      let common ←
        if ← wordIf condition.isNone "using" then enclosed name else pure []
      let first : JoinedSource := .joined kind source condition common
      match ← joinKind? with
      | some next => return first :: (← sourcesAt fuel next)
      | none => return [first]

/-- A source of rows: a table, a query, or several sources. -/
def sourceAt : Nat → SqlReader SqlSource
  | 0 => refuse
  | fuel + 1 => do
      if ← symbol "(" then
        if ← atWords queryWords then
          let query ← queryAt fuel
          need ")"
          return .query query (← otherName)
        let sources ← sourcesAt fuel {}
        need ")"
        let _ ← otherName
        return .nested sources
      let table ← objectName
      let values ← valuesAt fuel
      let otherName ← otherName
      indexHint
      return .table table.database table.name otherName values

/-- Values in parentheses behind the name of a table, if there are any. -/
def valuesAt : Nat → SqlReader (Option (List SqlExpression))
  | 0 => refuse
  | fuel + 1 => do
      if !(← symbol "(") then return none
      if ← symbol ")" then return some []
      let values ← list (expressionAt fuel 0)
      need ")"
      return some values

end

/-- A fuel that suffices for the present tokens. -/
def fuel : SqlReader Nat := do return 16 * ((← count) + 1)

def expression : SqlReader SqlExpression := do expressionAt (← fuel) 0

def query : SqlReader SqlQuery := do queryAt (← fuel)

def orderTerm : SqlReader OrderTerm := do orderTermAt (← fuel)

def resultColumn : SqlReader ResultColumn := do resultColumnAt (← fuel)

def commonTables : SqlReader (List CommonTable) := do commonTablesAt (← fuel)

def limit : SqlReader (Option SqlExpression × Option SqlExpression) := do limitAt (← fuel)

end SqlReader

end EventForge
