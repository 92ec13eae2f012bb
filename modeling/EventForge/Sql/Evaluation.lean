import EventForge.Sql.Expression
import EventForge.Sql.Scope

/-!
# Evaluating expressions and queries

The same functions check an expression and evaluate it.  To check is to evaluate on rows of which
nothing is known: every part is then looked at, and names that stand for nothing are refused.  The
fuel bounds how deeply expressions and queries hold one another.
-/

namespace EventForge

namespace SqlExpression

/-- The truth value that a name stands for where no column has the name. -/
def truthOf? (name : Text) : Option Bool :=
  if sameName name "true" then some true
  else if sameName name "false" then some false
  else none

/-- Whether an aggregate stands in an expression, outside of the queries in it. -/
def usesAggregate : Nat → SqlExpression → Bool
  | 0, _ => false
  | fuel + 1, value =>
      let uses := usesAggregate fuel
      match value with
      | .constant _ | .oversized _ | .parameter _ | .column _ _ | .raise _ _ | .exists _
      | .scalar _ => false
      | .unary _ value | .collate value _ | .cast value _ | .isAmongRows value _ => uses value
      | .binary _ first second => uses first || uses second
      | .between value low high => uses value || uses low || uses high
      | .isAmong value items => uses value || items.any uses
      | .matches _ value pattern escape => uses value || uses pattern || escape.toList.any uses
      | .cases subject branches otherwise =>
          subject.toList.any uses || otherwise.toList.any uses ||
            branches.any fun branch => uses branch.1 || uses branch.2
      | .call function _ items =>
          SqlFunction.isAggregate function.toAsciiLower items.length || items.any uses
      | .callOnAll _ => true
      | .row items => items.any uses

end SqlExpression

namespace SqlQuery

mutual

/-- Whether a table with a name, outside of any database, is a source of a query. -/
def mentions (name : Text) : Nat → SqlQuery → Bool
  | 0, _ => false
  | fuel + 1, query =>
      match query with
      | .select _ _ sources _ _ _ => sourcesMention name fuel sources
      | .values _ => false
      | .compound _ first second => mentions name fuel first || mentions name fuel second
      | .ordered query _ _ _ | .sharing _ query => mentions name fuel query

def sourcesMention (name : Text) : Nat → List JoinedSource → Bool
  | 0, _ => false
  | fuel + 1, sources =>
      sources.any fun source =>
        match source with
        | .joined _ (.table none table _ _) _ _ => sameName table name
        | .joined _ (.table (some _) _ _ _) _ _ => false
        | .joined _ (.query query _) _ _ => mentions name fuel query
        | .joined _ (.nested sources) _ _ => sourcesMention name fuel sources

end

end SqlQuery

namespace CompoundOperator

def name : CompoundOperator → Text
  | .union => "UNION"
  | .unionAll => "UNION ALL"
  | .intersect => "INTERSECT"
  | .except => "EXCEPT"

end CompoundOperator

namespace ResultTable

/-- Whether two rows are the same. -/
def sameRow (columns : List ScopeColumn) (first second : List Cell) : Bool :=
  (columns.zip (first.zip second)).all fun entry =>
    entry.2.1.sameBy entry.1.collation entry.2.2

/-- Rows, with what belongs to them, without those that repeat an earlier row. -/
def distinctBy {Kept : Type} (columns : List ScopeColumn) (rows : List (List Cell × Kept)) :
    List (List Cell × Kept) :=
  (rows.foldl (fun kept row =>
    if kept.any fun other => sameRow columns row.1 other.1 then kept else row :: kept) []).reverse

/-- Rows without those that repeat an earlier one. -/
def distinct (columns : List ScopeColumn) (rows : List (List Cell)) : List (List Cell) :=
  (distinctBy columns (rows.map fun row => (row, ()))).map (·.1)

/-- Whether a list of cells comes before or with another one, where each position may be reversed
and may have what is missing last. -/
def keysLe : List (Collation × Bool × Bool) → List Cell → List Cell → Bool
  | (collation, descending, nullsLast) :: terms, first :: firsts, second :: seconds =>
      if first.isNull ≠ second.isNull then first.isNull ≠ nullsLast
      else if first.sameBy collation second then keysLe terms firsts seconds
      else if descending then second.leBy collation first
      else first.leBy collation second
  | _, _, _ => true

/-- What belongs to equal keys, group by group, in the order of the keys. -/
def grouped {Kept : Type} (keyed : List (List Cell × Kept)) : List (List Kept) :=
  let le (first second : List Cell) : Bool :=
    keysLe (first.map fun _ => (Collation.binary, false, false)) first second
  let ordered := keyed.mergeSort fun first second => le first.1 second.1
  (ordered.splitBy fun first second => le first.1 second.1 && le second.1 first.1).map
    fun run => run.map (·.2)

/-- Rows in their own order. -/
def sorted (columns : List ScopeColumn) (rows : List (List Cell)) : List (List Cell) :=
  rows.mergeSort (keysLe (columns.map fun column => (column.collation, false, false)))

/-- The rows of two queries together. -/
def combine (operator : CompoundOperator) (columns : List ScopeColumn)
    (first second : List (List Cell)) : List (List Cell) :=
  match operator with
  | .unionAll => first ++ second
  | .union => sorted columns (distinct columns (first ++ second))
  | .intersect =>
      sorted columns
        ((distinct columns first).filter fun row => second.any (sameRow columns row))
  | .except =>
      sorted columns
        ((distinct columns first).filter fun row => !second.any (sameRow columns row))

/-- A part of some rows: how many are left out, and how many follow at most. -/
def limited {Row : Type} (limit offset : Option Int) (rows : List Row) : List Row :=
  let rows := rows.drop (offset.getD 0).toNat
  match limit with
  | some size => if size < 0 then rows else rows.take size.toNat
  | none => rows

/-- The rows that arise from some by a step, one after the other.  Where rows must differ, those
that repeat one are left out. -/
def closure (columns : List ScopeColumn) (differ : Bool)
    (step : List Cell → Except SqlRefusal (List (List Cell))) (most : Option Nat) :
    Nat → List (List Cell) → List (List Cell) → Except SqlRefusal (List (List Cell))
  | 0, _, _ => .error .tooDeep
  | _ + 1, found, [] => .ok found.reverse
  | fuel + 1, found, row :: waiting =>
      if most.any fun most => most ≤ found.length then .ok found.reverse
      else do
        let found := row :: found
        let new ← step row
        let new :=
          if differ then
            (distinct columns new).filter fun row =>
              !(found ++ waiting).any (sameRow columns row)
          else new
        closure columns differ step most fuel found (waiting ++ new)

end ResultTable

/-- How deeply expressions and queries can hold one another. -/
def evaluationDepth : Nat := 4000

/-- A column that a query gives: its scope, and its value on a row. -/
structure OutputColumn where
  column : ScopeColumn
  value : Surroundings → Except SqlRefusal Cell

/-- What a source of a query gives: a row of which nothing is known, and its rows. -/
structure SourceRows where
  unknown : Frame
  frames : List Frame

namespace SourceRows

/-- Whether two rows agree in their columns with some names. -/
def agree (names : List Text) (first second : Frame) : Bool :=
  names.all fun name =>
    match (first.flatMap fun row => row.matching name false).head?,
        (second.flatMap fun row => row.matching name false).head? with
    | some first, some second =>
        Cell.compare .equal first.column.collation first.cell second.cell = some true
    | _, _ => false

/-- The names of columns that two sources have in common. -/
def commonNames (first second : Frame) : List Text :=
  let names (frame : Frame) : List Text :=
    frame.flatMap fun row => (row.table.columns.filter fun column =>
      !column.repeated && !column.hidden).map (·.name)
  (names first).filter fun name => (names second).any (sameName name)

/-- A row in which columns with some names repeat others. -/
def repeating (names : List Text) (frame : Frame) : Frame :=
  frame.map fun row =>
    { row with table := { row.table with
      columns := row.table.columns.map fun column =>
        { column with repeated := column.repeated || names.any (sameName column.name) } } }

/-- The pairs of the rows of two sources that meet a condition, with the rows that a join keeps in
any case. -/
def pair (kind : JoinKind) (first second : SourceRows) (common : List Text)
    (holds : Frame → Except SqlRefusal Bool) : Except SqlRefusal SourceRows := do
  let tail (frame : Frame) : Frame := repeating common frame
  let matched ← first.frames.mapM fun left => do
    let rights ← second.frames.filterM fun right => do
      if !agree common left right then return false
      holds (left ++ tail right)
    return (left, rights)
  let joined := matched.flatMap fun entry =>
    if entry.2.isEmpty && kind.keepsFirst then [entry.1 ++ tail second.unknown]
    else entry.2.map fun right => entry.1 ++ tail right
  let alone ←
    if kind.keepsSecond then
      second.frames.filterM fun right => do
        let lefts ← first.frames.filterM fun left => do
          if !agree common left right then return false
          holds (left ++ tail right)
        return lefts.isEmpty
    else pure []
  return {
    unknown := first.unknown ++ tail second.unknown
    frames := joined ++ alone.map fun right => first.unknown ++ tail right }

end SourceRows

/-- A part of a row that is compared, with how its source is compared. -/
structure RowPart where
  cell : Cell
  affinity : Option Affinity
  collation : Collation

namespace RowPart

/-- The parts of a row under columns. -/
def ofColumns (columns : List ScopeColumn) (cells : List Cell) : List RowPart :=
  (columns.zip cells).map fun entry =>
    { cell := entry.2, affinity := entry.1.affinity, collation := entry.1.collation }

/-- A comparison of two parts; unknown if something is missing. -/
def compareTo (operator : BinaryOperator) (first second : RowPart) : Option Bool :=
  let affinity := Affinity.shared first.affinity second.affinity
  let collation := if first.collation = .binary then second.collation else first.collation
  Cell.compare operator collation (first.cell.compared affinity) (second.cell.compared affinity)

/-- A comparison of two rows of one width, part by part: the first parts that differ settle which
row comes first. -/
def compare (operator : BinaryOperator) : List RowPart → List RowPart → Option Bool
  | first :: firsts, second :: seconds =>
      let same := first.compareTo .equal second
      match operator with
      | .equal => Cell.both same (compare .equal firsts seconds)
      | .is => Cell.both (first.compareTo .is second) (compare .is firsts seconds)
      | .unequal => Cell.either (same.map not) (compare .unequal firsts seconds)
      | .isNot => Cell.either (first.compareTo .isNot second) (compare .isNot firsts seconds)
      | operator =>
          if same = some true && !firsts.isEmpty then compare operator firsts seconds
          else first.compareTo operator second
  | _, _ => some (operator = .equal || operator = .is)

end RowPart

namespace BinaryOperator

/-- Whether the operator compares its operands. -/
def compares : BinaryOperator → Bool
  | .equal | .unequal | .is | .isNot | .less | .lessEqual | .greater | .greaterEqual => true
  | _ => false

end BinaryOperator

/-- Whether a source makes its rows from values. -/
def SqlSource.takesValues : SqlSource → Bool
  | .table _ _ _ values => values.any fun values => !values.isEmpty
  | _ => false

namespace SqlExpression

/-- Whether an expression may stand for a row. -/
def isRow : SqlExpression → Bool
  | .row _ | .scalar _ => true
  | _ => false

/-- Whether the value of an expression is known to be JSON. -/
def givesJson (value : SqlExpression) (cell : Cell) : Bool :=
  match value with
  | .call function _ _ => JsonFunction.gave function.toAsciiLower cell
  | .binary .extract _ _ => !cell.isNull
  | _ => false

/-- The values of expressions for a function of JSON. -/
def jsonArguments (values : List SqlExpression) (cells : List Cell) : List JsonArgument :=
  (values.zip cells).map fun entry =>
    { cell := entry.2, isJson := givesJson entry.1 entry.2 }

/-- How many values an expression has as it is written. -/
def writtenSize : SqlExpression → Nat
  | .row items => items.length
  | _ => 1

end SqlExpression

namespace Evaluation

/-- The number that an expression is, if it is one with signs and an order of texts at most. -/
def writtenNumber? : SqlExpression → Option Int
  | .constant (.integer number) =>
      if -(twoTo 31) ≤ number && number < twoTo 31 then some number else none
  | .collate value _ | .unary .positive value => writtenNumber? value
  | .unary .negative value => (writtenNumber? value).map fun number => -number
  | _ => none

/-- Refuses terms that are the positions of columns that are not there. -/
def checkPositions (clause : Text) (columns : Nat) (terms : List SqlExpression) :
    Except SqlRefusal Unit :=
  let refused? := terms.zipIdx.find? fun term =>
    (writtenNumber? term.1).any fun position => position < 1 || (columns : Int) < position
  match refused? with
  | some term => .error (.positionRange (term.2 + 1) clause columns)
  | none => .ok ()

/-- The position of a column that an expression names or counts. -/
def outputPosition? (columns : List ScopeColumn) (value : SqlExpression) :
    Option Nat :=
  match value with
  | .constant (.integer position) =>
      if 0 < position && position ≤ columns.length then some (position.toNat - 1) else none
  | .column [name] _ => columns.findIdx? fun column => sameName column.name name
  | .collate value _ => outputPosition? columns value
  | _ => none

/-- The rows of a table in the order of an index on a column that a condition limits. -/
def orderedBySource (around : Surroundings) (sources : List JoinedSource)
    (condition : Option SqlExpression) (frames : List Frame) : List Frame :=
  match sources, condition with
  | [.joined _ (.table _ name _ _) _ _], some condition =>
      let indexed (column : Text) : Bool :=
        (around.database.indexesOf name).any fun index =>
          index.condition.isNone && ((index.terms.head?).any fun term =>
            match term.value with
            | .column [first] _ => sameName first column
            | _ => false)
      let limited : Option Text :=
        match condition with
        | .between (.column [column] _) _ _ => some column
        | .binary operator (.column [column] _) _ =>
            if [BinaryOperator.equal, .less, .lessEqual, .greater, .greaterEqual].contains operator
            then some column else none
        | _ => none
      match limited with
      | some column =>
          if indexed column then
            let key (frame : Frame) : Cell :=
              ((frame.flatMap fun row => row.matching column true).head?.map
                FoundColumn.cell).getD .null
            frames.mergeSort fun first second => Cell.le (key first) (key second)
          else frames
      | none => frames
  | _, _ => frames

mutual

/-- The value of an expression. -/
def valueAt : Nat → Surroundings → SqlExpression → Except SqlRefusal Cell
  | 0, _, _ => .error .tooDeep
  | fuel + 1, around, value =>
      let evaluate := valueAt fuel around
      match value with
      | .constant cell => .ok cell
      | .oversized written => .error (.other (("hex literal too big: " : Text) ++ written))
      | .parameter name => do
          around.refuse .parameters
          if around.checking then return .null
          match around.parameters.find? fun entry => entry.1 == name with
          | some entry => return entry.2
          | none => throw (.unboundParameter name)
      | .column written quoted => do
          let path := around.pathOf written
          match ← around.find? path with
          | some (.inl found) =>
              if 1 < path.length &&
                  (around.place = some .indexes || around.place = some .generated) then
                around.refuse .outerColumns
              return found.cell
          | some (.inr value) => valueAt fuel { around with aliases := [] } value
          | none =>
              let name := path.getLastD []
              if 1 < path.length then throw (.noColumn path)
              else if quoted then return .text name
              else
                match SqlExpression.truthOf? name with
                | some truth => return Cell.ofTruth? (some truth)
                | none => throw (.noColumn path)
      | .unary operator value => do
          let cell ← evaluate value
          match operator with
          | .negative => return Cell.subtract (.integer 0) cell
          | .positive => return cell
          | .complement =>
              return (cell.toInteger?.map fun number => Cell.integer (-number - 1)).getD .null
          | .not => return Cell.ofTruth? (cell.truth?.map not)
          | .isNull => return Cell.ofTruth? (some cell.isNull)
          | .notNull => return Cell.ofTruth? (some !cell.isNull)
      | .binary operator first second => binaryAt fuel around operator first second
      | .between value low high => do
          let above ← binaryAt fuel around .greaterEqual value low
          let below ← binaryAt fuel around .lessEqual value high
          return Cell.ofTruth? (Cell.both above.truth? below.truth?)
      | .isAmong (.row parts) items => do
          let width := parts.length
          let found ← partsAt fuel around (.row parts)
          let rows ← items.mapM fun item => do
            let size := item.writtenSize
            if size ≠ width then throw (.rowWidth size width)
            partsAt fuel around item
          return Cell.ofTruth? (rows.foldl (fun result row =>
            Cell.either result (RowPart.compare .equal found row)) (some false))
      | .isAmong value items => do
          let cell ← evaluate value
          let affinity := (← affinityAt fuel around value).getD .blob
          let collation ← collationAt fuel around value
          let cells ← items.mapM evaluate
          return Cell.ofTruth? (cells.foldl (fun result item =>
            Cell.either result (Cell.compare .equal collation (cell.compared affinity)
              (item.compared affinity))) (some false))
      | .isAmongRows value query => do
          around.refuse .subqueries
          let found ← partsAt fuel around value
          let table ← queryAt fuel around query
          if table.columns.length ≠ found.length then
            throw (.columnCount found.length table.columns.length)
          return Cell.ofTruth? (table.rows.foldl (fun result row =>
            Cell.either result (RowPart.compare .equal found
              (RowPart.ofColumns table.columns row))) (some false))
      | .matches function value pattern escape => do
          SqlPattern.check function escape.isSome
          if SqlFunction.unpredictable.contains function.toAsciiLower &&
              around.place ≠ some .checks then
            around.refuse .unpredictable
          let pattern ← evaluate pattern
          let cell ← evaluate value
          let escape ← escape.mapM evaluate
          if around.checking then return .null
          return Cell.ofTruth? (← SqlPattern.matches? function cell pattern escape)
      | .collate value _ => evaluate value
      | .cast value typeName => return (← evaluate value).cast (Affinity.ofTypeName typeName)
      | .cases subject branches otherwise => do
          let truth (condition : SqlExpression) : Except SqlRefusal (Option Bool) :=
            match subject with
            | some subject => return (← binaryAt fuel around .equal subject condition).truth?
            | none => return (← evaluate condition).truth?
          if around.checking then
            let _ ← branches.mapM fun branch => do
              let _ ← truth branch.1
              evaluate branch.2
            let _ ← otherwise.mapM evaluate
            return .null
          match ← branches.findM? fun branch => return (← truth branch.1) = some true with
          | some branch => evaluate branch.2
          | none => return (← otherwise.mapM evaluate).getD .null
      | .call function distinct items => callAt fuel around function distinct items
      | .callOnAll function => do
          let name := function.toAsciiLower
          if name ≠ ("count" : Text) then
            if SqlFunction.names.contains name || SqlFunction.isAggregate name 0 then
              throw (.argumentCount function)
            throw (.noFunction function)
          match around.group with
          | some frames => return .integer frames.length
          | none => throw (.misusedAggregate around.inCondition function)
      | .exists query => do
          around.refuse .subqueries
          return Cell.ofTruth? (some !(← queryAt fuel around query).rows.isEmpty)
      | .scalar query => do
          around.refuse .subqueries
          let table ← queryAt fuel around query
          if table.columns.length ≠ 1 then throw (.columnCount 1 table.columns.length)
          return (table.rows.head?.bind List.head?).getD .null
      | .row _ => throw .misusedRow
      | .raise resolution message =>
          if !around.inTrigger then throw .raiseOutside
          else if around.checking then return .null
          else if resolution = .ignore then throw .rowIgnored
          else throw (.raised message)

/-- The value of an operator between two operands. -/
def binaryAt :
    Nat → Surroundings → BinaryOperator → SqlExpression → SqlExpression → Except SqlRefusal Cell
  | 0, _, _, _, _ => .error .tooDeep
  | fuel + 1, around, operator, first, second => do
      if operator = .is || operator = .isNot then
        if let .column [name] quoted := second then
          let _ ← valueAt fuel around second
          if let some truth := if quoted then none else SqlExpression.truthOf? name then
            if (← around.find? [name]).isNone then
              let holds := (← valueAt fuel around first).truth? == some truth
              return Cell.ofTruth? (some (holds == (operator == .is)))
      if operator.compares && (first.isRow || second.isRow) then
        let firsts ← partsAt fuel around first
        let seconds ← partsAt fuel around second
        if firsts.length ≠ seconds.length then throw .misusedRow
        return Cell.ofTruth? (RowPart.compare operator firsts seconds)
      let cell ← valueAt fuel around first
      if operator = .and && cell.truth? = some false && !around.checking then
        return .integer 0
      if operator = .or && cell.truth? = some true && !around.checking then return .integer 1
      let other ← valueAt fuel around second
      match operator with
      | .and => return Cell.ofTruth? (Cell.both cell.truth? other.truth?)
      | .or => return Cell.ofTruth? (Cell.either cell.truth? other.truth?)
      | .add => return cell.add other
      | .subtract => return cell.subtract other
      | .multiply => return cell.multiply other
      | .divide => return cell.divide other
      | .remainder => return cell.remainder other
      | .bitAnd => return cell.bitAnd other
      | .bitOr => return cell.bitOr other
      | .shiftLeft => return cell.shiftLeft other
      | .shiftRight => return cell.shiftRight other
      | .concatenate => return cell.concatenate other
      | .extract | .extractValue =>
          if around.checking then return .null
          JsonFunction.arrow (operator = .extract) cell other
      | operator => do
          let part : RowPart :=
            { cell, affinity := ← affinityAt fuel around first
              collation := ← collationAt fuel around first }
          let otherPart : RowPart :=
            { cell := other, affinity := ← affinityAt fuel around second
              collation := ← collationAt fuel around second }
          return Cell.ofTruth? (part.compareTo operator otherPart)

/-- The parts of a row that an expression stands for; a single value is a row with one part. -/
def partsAt : Nat → Surroundings → SqlExpression → Except SqlRefusal (List RowPart)
  | 0, _, _ => .error .tooDeep
  | fuel + 1, around, value =>
      match value with
      | .row items =>
          items.mapM fun item => do
            return { cell := ← valueAt fuel around item, affinity := ← affinityAt fuel around item
                     collation := ← collationAt fuel around item }
      | .scalar query => do
          around.refuse .subqueries
          let table ← queryAt fuel around query
          return RowPart.ofColumns table.columns
            ((table.rows.head?).getD (table.columns.map fun _ => .null))
      | value => do
          return [{ cell := ← valueAt fuel around value, affinity := ← affinityAt fuel around value
                    collation := ← collationAt fuel around value }]

/-- The value of a call: of an aggregate over the rows of a group, or of a function. -/
def callAt :
    Nat → Surroundings → Text → Bool → List SqlExpression → Except SqlRefusal Cell
  | 0, _, _, _, _ => .error .tooDeep
  | fuel + 1, around, function, distinct, items => do
      let name := function.toAsciiLower
      match SqlFunction.fault? function items.length, SqlFunction.isAggregate name items.length,
          around.group with
      | some fault, _, _ => refusedCallAt fuel around items fault
      | none, true, none =>
          refusedCallAt fuel around items (.misusedAggregate around.inCondition function)
      | none, true, some frames =>
          let outer := around.frames.drop 1
          let rows ← frames.mapM fun frame =>
            items.mapM (valueAt fuel { around with frames := frame :: outer, group := none })
          let present :=
            if SqlFunction.keepsMissing name then rows
            else rows.filter fun row => !(row.head?.any Cell.isNull)
          let present :=
            if distinct then ResultTable.distinct (items.map fun _ => default) present
            else present
          if SqlFunction.keepsMissing name then
            JsonFunction.value name (present.flatMap (SqlExpression.jsonArguments items))
          else SqlFunction.aggregate name present
      | none, false, _ =>
          if SqlFunction.unpredictable.contains name && around.place ≠ some .checks then
            if let .error fault := around.refuse .unpredictable then
              return ← refusedCallAt fuel around items fault
          if SqlFunction.isLazy name && !around.checking then
            return ← chosenAt fuel around name items
          let cells ← items.mapM (valueAt fuel around)
          if let some place := around.place then
            if SqlMoment.isPresent name cells && !around.checking then
              throw (.presentMoment name place)
          if JsonFunction.names.contains name then
            if around.checking then return .null
            JsonFunction.value name (SqlExpression.jsonArguments items cells)
          else SqlFunction.value name cells

/-- The value of a function that looks at no more values than it needs. -/
def chosenAt : Nat → Surroundings → Text → List SqlExpression → Except SqlRefusal Cell
  | 0, _, _, _ => .error .tooDeep
  | fuel + 1, around, name, items =>
      match items with
      | [] => .ok .null
      | item :: items => do
          let cell ← valueAt fuel around item
          if name = ("iif" : Text) then
            let chosen := if cell.truth? = some true then items.head? else items[1]?
            return (← chosen.mapM (valueAt fuel around)).getD .null
          if cell.isNull then chosenAt fuel around name items else return cell

/-- The refusal of a call, unless one of its first arguments, as far as they are columns, parameters
and calls, is refused by itself. -/
def refusedCallAt :
    Nat → Surroundings → List SqlExpression → SqlRefusal → Except SqlRefusal Cell
  | 0, _, _, _ => .error .tooDeep
  | fuel + 1, around, items, fault =>
      match items with
      | [] => .error fault
      | item :: items => do
          let isDirect : Bool :=
            match item with
            | .column _ _ | .parameter _ | .call _ _ _ | .callOnAll _ => true
            | _ => false
          if !isDirect then throw fault
          let _ ← valueAt fuel around item
          refusedCallAt fuel around items fault

/-- The affinity of an expression that is a column or converted to a type. -/
def affinityAt :
    Nat → Surroundings → SqlExpression → Except SqlRefusal (Option Affinity)
  | 0, _, _ => .ok none
  | fuel + 1, around, value =>
      match value with
      | .column path _ => do
          match ← around.find? path with
          | some (.inl found) => return found.column.affinity
          | some (.inr value) => affinityAt fuel { around with aliases := [] } value
          | none => return none
      | .collate value _ => affinityAt fuel around value
      | .cast _ typeName => .ok (some (Affinity.ofTypeName typeName))
      | .scalar query => do
          let table ← queryAt fuel { around with checking := true } query
          return (table.columns.head?).bind ScopeColumn.affinity
      | _ => .ok none

/-- How an expression is compared. -/
def collationAt :
    Nat → Surroundings → SqlExpression → Except SqlRefusal Collation
  | 0, _, _ => .ok .binary
  | fuel + 1, around, value =>
      match value with
      | .column path _ => do
          match ← around.find? path with
          | some (.inl found) => return found.column.collation
          | some (.inr value) => collationAt fuel { around with aliases := [] } value
          | none => return .binary
      | .collate _ name =>
          match Collation.ofName? name with
          | some collation => .ok collation
          | none =>
              if around.checking && around.place = some .checks then .ok .binary
              else .error (.noCollation name)
      | .cast value _ | .unary .positive value => collationAt fuel around value
      | _ => .ok .binary

/-- The rows that a query gives. -/
def queryAt : Nat → Surroundings → SqlQuery → Except SqlRefusal ResultTable
  | 0, _, _ => .error .tooDeep
  | fuel + 1, around, query =>
      match query with
      | .select _ _ _ _ _ _ => selectAt fuel around query []
      | .values rows => do
          let around := { around with group := none }
          let cells ← rows.mapM fun row => row.mapM (valueAt fuel around)
          let width := ((cells.head?).map List.length).getD 0
          if cells.any fun row => row.length ≠ width then throw .unevenRows
          let columns := (List.range width).map fun position : Nat =>
            ({ name := ("column" : Text) ++ Text.ofNat (position + 1) } : ScopeColumn)
          return { columns, rows := cells }
      | .compound operator first second => do
          let first ← queryAt fuel around first
          let second ← queryAt fuel around second
          if first.columns.length ≠ second.columns.length then
            throw (.compoundCount operator.name)
          return {
            columns := first.columns
            rows := ResultTable.combine operator first.columns first.rows second.rows }
      | .ordered query terms limit offset => do
          let limit ← limit.mapM (countAt fuel around)
          let offset ← offset.mapM (countAt fuel around)
          let table ←
            match query with
            | .select _ _ _ _ _ _ => selectAt fuel around query terms
            | other => do
                let table ← queryAt fuel around other
                if around.checking then
                  checkPositions "ORDER" table.columns.length (terms.map OrderTerm.value)
                let orders := terms.filterMap fun term =>
                  match term with
                  | .by value descending nullsLast =>
                      (outputPosition? table.columns value).map fun position =>
                        (position, descending, nullsLast.getD descending)
                let key (row : List Cell) : List Cell :=
                  orders.map fun order => row.getD order.1 .null
                let directions := orders.map fun order =>
                  (((table.columns[order.1]?).map ScopeColumn.collation).getD .binary, order.2)
                pure { table with rows := table.rows.mergeSort fun first second =>
                  ResultTable.keysLe directions (key first) (key second) }
          return { table with rows := ResultTable.limited limit offset table.rows }
      | .sharing tables query => do
          let around ← tables.foldlM (shareAt fuel) around
          queryAt fuel around query

/-- An integer that limits rows. -/
def countAt : Nat → Surroundings → SqlExpression → Except SqlRefusal Int
  | 0, _, _ => .error .tooDeep
  | fuel + 1, around, value => do
      match (← valueAt fuel { around with frames := [] } value).asNumber.asInteger with
      | .integer count => return count
      | _ => if around.checking then return 0 else throw .wrongType

/-- The surroundings with a common table.  A table that is a source of itself takes in the rows that
arise from its own, one after the other. -/
def shareAt : Nat → Surroundings → CommonTable → Except SqlRefusal Surroundings
  | 0, _, _ => .error .tooDeep
  | fuel + 1, around, .named name labels query => do
      let named (table : ResultTable) : ResultTable :=
        { table with columns := table.columns.zipIdx.map fun entry =>
            { entry.1 with name := (labels[entry.2]?).getD entry.1.name } }
      let share (table : ResultTable) : Surroundings :=
        { around with shared := { name, table := named table } :: around.shared }
      let (body, limit) : SqlQuery × Option SqlExpression :=
        match query with
        | .ordered query _ limit _ => (query, limit)
        | query => (query, none)
      match body with
      | .compound operator first second =>
          if second.mentions name fuel then
            let first ← queryAt fuel around first
            let most ← limit.mapM (countAt fuel around)
            let step (row : List Cell) : Except SqlRefusal (List (List Cell)) := do
              return (← queryAt fuel (share { first with rows := [row] }) second).rows
            if around.checking then
              let _ ← step (first.columns.map fun _ => .null)
              return share first
            let most := most.bind fun most => if most < 0 then none else some most.toNat
            let rows ← ResultTable.closure first.columns (operator ≠ .unionAll) step most 1000000
              [] first.rows
            return share { first with rows }
          else return share (← queryAt fuel around query)
      | _ => return share (← queryAt fuel around query)

/-- The rows of a single query, in an order. -/
def selectAt :
    Nat → Surroundings → SqlQuery → List OrderTerm → Except SqlRefusal ResultTable
  | 0, _, _, _ => .error .tooDeep
  | fuel + 1, around, query, terms =>
      match query with
      | .select distinct results sources condition groups having => do
          let source ← sourcesAt fuel around sources
          let aliases := results.filterMap fun result =>
            match result with
            | .value value (some otherName) _ => some (otherName, value)
            | _ => none
          let onRow (frame : Frame) : Surroundings := { around.within frame with aliases }
          let outputs ← outputsAt fuel (onRow source.unknown) source.unknown results
          let uses := SqlExpression.usesAggregate fuel
          let aggregated := !groups.isEmpty || having.isSome ||
            (results.any fun result =>
              match result with
              | .value value _ _ => uses value
              | _ => false) ||
            terms.any fun term => match term with | .by value _ _ => uses value
          let holds (frame : Frame) : Except SqlRefusal Bool :=
            match condition with
            | none => .ok true
            | some condition => do
                let cell ← valueAt fuel { onRow frame with inCondition := aggregated } condition
                return cell.truth? = some true || around.checking
          if around.checking then
            let group := if aggregated then some [source.unknown] else none
            let context := { onRow source.unknown with group }
            let _ ← outputs.mapM fun output => output.value context
            let _ ← having.mapM (valueAt fuel context)
          let frames ←
            (if around.checking then [source.unknown] else source.frames).filterM holds
          if around.checking then
            checkPositions "ORDER" outputs.length (terms.map OrderTerm.value)
            checkPositions "GROUP" outputs.length groups
          let frames := orderedBySource around sources condition frames
          let labels := outputs.map OutputColumn.column
          let orders ← terms.mapM fun term =>
            match term with
            | .by value descending nullsLast => do
                let collation ← collationAt fuel (onRow source.unknown) value
                return (value, collation, descending, nullsLast.getD descending)
          let contexts ←
            if !aggregated then pure (frames.map onRow)
            else do
              let all ←
                if groups.isEmpty then pure [frames]
                else do
                  let keyed ← frames.mapM fun frame => do
                    let cells ← groups.mapM fun group =>
                      match (outputPosition? labels group).bind fun place => outputs[place]? with
                      | some output => output.value (onRow frame)
                      | none => valueAt fuel (onRow frame) group
                    return (cells, frame)
                  pure (ResultTable.grouped keyed)
              let contexts := all.map fun frames : List Frame =>
                { onRow (frames.getLastD source.unknown) with group := some frames }
              match having with
              | none => pure contexts
              | some having =>
                  contexts.filterM fun context => do
                    return (← valueAt fuel context having).truth? = some true ||
                      around.checking
          let rows ← contexts.mapM fun context => do
            let cells ← outputs.mapM fun output => output.value context
            let keys ← orders.mapM fun order =>
              match outputPosition? labels order.1 with
              | some position => .ok (cells.getD position .null)
              | none => valueAt fuel context order.1
            return (cells, keys)
          let rows := if distinct then ResultTable.distinctBy labels rows else rows
          let directions := orders.map fun order => order.2
          let rows :=
            if orders.isEmpty then rows
            else rows.mergeSort fun first second =>
              ResultTable.keysLe directions first.2 second.2
          return { columns := labels, rows := rows.map (·.1) }
      | other => queryAt fuel around other

/-- The columns that a query gives, from those that are listed. -/
def outputsAt :
    Nat → Surroundings → Frame → List ResultColumn → Except SqlRefusal (List OutputColumn)
  | 0, _, _, _ => .error .tooDeep
  | fuel + 1, around, unknown, results => do
      let all (included : ScopeTable → Bool) (explicit : Bool) : List OutputColumn :=
        unknown.zipIdx.flatMap fun entry =>
          if !included entry.1.table then []
          else (entry.1.table.columns.zipIdx.filter fun column =>
            !column.1.hidden && (explicit || !column.1.repeated)).map fun column =>
              { column := { column.1 with repeated := false }
                value := fun around =>
                  .ok ((((around.frames.head?).bind fun frame => frame[entry.2]?).bind fun row =>
                    row.cells[column.2]?).getD .null) }
      let listed ← results.mapM fun result =>
        match result with
        | .all =>
            if unknown.isEmpty then .error (.other "no tables specified")
            else .ok (all (fun _ => true) false)
        | .allOf table =>
            if unknown.any fun row => sameName row.table.name table then
              .ok (all (fun found => sameName found.name table) true)
            else .error (.noObject .table table)
        | .value value otherName written => do
            let affinity ← affinityAt fuel around value
            let collation := (collationAt fuel around value).toOption.getD .binary
            let own ←
              match value with
              | .column path _ => do
                  match ← around.find? path with
                  | some (.inl found) => pure (some found.column)
                  | _ => pure none
              | _ => pure none
            let name := otherName.getD ((own.map ScopeColumn.name).getD written)
            return [({
              column :=
                { name, affinity, collation, typeName := (own.map ScopeColumn.typeName).getD [] }
              value := fun around => valueAt fuel { around with aliases := [] } value }
                : OutputColumn)]
      return listed.flatten

/-- The rows of sources that are joined with one another. -/
def sourcesAt :
    Nat → Surroundings → List JoinedSource → Except SqlRefusal SourceRows
  | 0, _, _ => .error .tooDeep
  | fuel + 1, around, sources =>
      sources.foldlM (fun before source => do
        match source with
        | .joined kind source condition common =>
            let next ← sourceAt fuel
              (if source.takesValues then around.within before.unknown else around) source
            let common :=
              if kind.natural then SourceRows.commonNames before.unknown next.unknown else common
            if let some missing := common.find? fun name =>
                !(SourceRows.commonNames before.unknown next.unknown).any (sameName name) then
              throw (.other (("cannot join using column " : Text) ++ missing ++
                " - column not present in both tables"))
            let pair (before next : SourceRows) : Except SqlRefusal SourceRows :=
              SourceRows.pair kind before next common fun frame =>
                match condition with
                | none => .ok true
                | some condition => do
                    let cell ← valueAt fuel (around.within frame) condition
                    return cell.truth? = some true || around.checking
            if source.takesValues && !around.checking then
              let parts ← before.frames.mapM fun frame => do
                pair { before with frames := [frame] }
                  (← sourceAt fuel (around.within frame) source)
              return {
                unknown := before.unknown ++ SourceRows.repeating common next.unknown
                frames := parts.flatMap SourceRows.frames }
            pair before next)
        { unknown := [], frames := [[]] }

/-- The rows of a source. -/
def sourceAt : Nat → Surroundings → SqlSource → Except SqlRefusal SourceRows
  | 0, _, _ => .error .tooDeep
  | fuel + 1, around, source =>
      let ofResult (name : Text) (table : ResultTable) : SourceRows :=
        let scope : ScopeTable := { name, columns := table.columns, hasIds := true }
        { unknown := [scope.unknownRow]
          frames :=
            if around.checking then [[scope.unknownRow]]
            else table.rows.map fun cells => [{ table := scope, cells }] }
      let ofRows (scope : ScopeTable) (rows : List ScopeRow) : SourceRows :=
        { unknown := [scope.unknownRow]
          frames :=
            if around.checking then [[scope.unknownRow]] else rows.map fun row => [row] }
      match source with
      | .nested sources => sourcesAt fuel around sources
      | .query query otherName => do
          return ofResult (otherName.getD []) (← queryAt fuel { around with group := none } query)
      | .table database name otherName values => do
          let shown := otherName.getD name
          let shared := around.shared.find? fun entry => database.isNone && sameName entry.name name
          let noFunction : SqlRefusal := .other (("'" : Text) ++ name ++ "' is not a function")
          match shared with
          | some entry =>
              if values.isSome then throw noFunction
              return ofResult shown entry.table
          | none =>
              let shownName := ObjectName.shown
                { database := if around.defined then some "main" else database, name
                  written := name }
              let absent : SqlRefusal := .noObject .table shownName
              if !Database.isMain database then throw absent
              let isFound := (around.database.table? name).isSome ||
                (around.database.view? name).isSome || (Database.master? name).isSome
              if isFound && values.isSome then throw noFunction
              match around.database.table? name, around.database.view? name with
              | some table, _ =>
                  let scope := ScopeTable.ofTable table shown
                  return ofRows scope (table.rows.map fun row =>
                    { table := scope, cells := row.cells, id := some row.id })
              | none, some view =>
                  if around.views.any (sameName view.name) then throw (.viewCircle view.name)
                  let table ← queryAt fuel
                    { database := around.database, checking := around.checking, defined := true
                      views := view.name :: around.views } view.query
                  if !view.columns.isEmpty && view.columns.length ≠ table.columns.length then
                    throw (.viewColumns view.name view.columns.length table.columns.length)
                  let columns := table.columns.zipIdx.map fun entry =>
                    { entry.1 with name := (view.columns[entry.2]?).getD entry.1.name }
                  return ofResult shown { table with columns }
              | none, none =>
                  if let some master := Database.master? name then
                    let scope : ScopeTable :=
                      { name := shown, kept := true, hasIds := true
                        columns := Database.masterColumns.map fun column =>
                          { name := column.1, affinity := some (Affinity.ofTypeName column.2)
                            typeName := column.2 } }
                    return ofRows scope ((around.database.masterRows master).map fun cells =>
                      { table := scope, cells })
                  else
                    match Database.virtual? name with
                    | some table =>
                        let scope : ScopeTable :=
                          { name := shown, kept := true, hasIds := true
                            columns := (table.columns.map fun column => { name := column }) ++
                              table.given.map fun column => { name := column, hidden := true } }
                        let cells ← (values.getD []).mapM (valueAt fuel around)
                        let viewColumns (view : SqlView) : List VirtualTable.ListedColumn :=
                          match queryAt fuel
                            { database := around.database, checking := true, defined := true
                              views := [view.name] } view.query with
                          | .error _ => []
                          | .ok table => table.columns.zipIdx.map fun entry =>
                              { name := (view.columns[entry.2]?).getD entry.1.name
                                typeName := entry.1.typeName }
                        let rows ←
                          if around.checking then pure []
                          else table.rowsFor around.database viewColumns cells
                        return ofRows scope (rows.map fun cells => { table := scope, cells })
                    | none => throw absent

end

end Evaluation

namespace SqlExpression

/-- The value of an expression. -/
def evaluate (around : Surroundings) (value : SqlExpression) : Except SqlRefusal Cell :=
  Evaluation.valueAt evaluationDepth around value

/-- Checks an expression among rows of which nothing is known. -/
def check (around : Surroundings) (value : SqlExpression) : Except SqlRefusal Unit := do
  let _ ← evaluate { around with checking := true } value

end SqlExpression

namespace SqlQuery

/-- The rows that a query gives. -/
def evaluate (around : Surroundings) (query : SqlQuery) : Except SqlRefusal ResultTable :=
  Evaluation.queryAt evaluationDepth around query

/-- The columns of a query, which is checked. -/
def check (around : Surroundings) (query : SqlQuery) : Except SqlRefusal ResultTable :=
  evaluate { around with checking := true } query

end SqlQuery

end EventForge
