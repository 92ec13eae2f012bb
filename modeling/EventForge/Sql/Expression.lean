import EventForge.Sql.Cell

/-!
# Expressions

The syntax of expressions and queries, and arithmetic on cells.
-/

namespace EventForge

/-!
## Expressions and queries

Expressions calculate a value from the rows in scope; queries make rows from tables.  Each may hold
the other: a query may stand for the value that it gives, and names its columns by expressions.
-/

inductive UnaryOperator
  | negative
  | positive
  | complement
  | not
  | isNull
  | notNull
deriving DecidableEq, Repr

inductive BinaryOperator
  | or
  | and
  | equal
  | unequal
  | is
  | isNot
  | less
  | lessEqual
  | greater
  | greaterEqual
  | bitAnd
  | bitOr
  | shiftLeft
  | shiftRight
  | add
  | subtract
  | multiply
  | divide
  | remainder
  | concatenate
  /-- What a path leads to in a text of JSON, as JSON or as a value. -/
  | extract
  | extractValue
deriving DecidableEq, Repr

/-- What settles a conflict with a rule of a table. -/
inductive Resolution
  | abort
  | rollback
  | fail
  | ignore
  | replace
deriving DecidableEq, Repr, Inhabited

inductive CompoundOperator
  | union
  | unionAll
  | intersect
  | except
deriving DecidableEq, Repr

/-- How the rows of a source are joined with those of the sources in front of it. -/
structure JoinKind where
  /-- Every row of the sources in front is kept. -/
  keepsFirst : Bool := false
  /-- Every row of the source is kept. -/
  keepsSecond : Bool := false
  /-- The columns with the same names are equal. -/
  natural : Bool := false
deriving DecidableEq, Repr

mutual

inductive SqlExpression where
  | constant (cell : Cell)
  /-- An integer in base sixteen that is too long, as it is written. -/
  | oversized (written : Text)
  /-- A parameter by what stands behind its mark. -/
  | parameter (name : Text)
  /-- A column, perhaps with its table and the database of that.  In quotes, it stands for a text
  if there is no such column. -/
  | column (path : List Text) (quoted : Bool)
  | unary (operator : UnaryOperator) (value : SqlExpression)
  | binary (operator : BinaryOperator) (first second : SqlExpression)
  | between (value low high : SqlExpression)
  | isAmong (value : SqlExpression) (items : List SqlExpression)
  | isAmongRows (value : SqlExpression) (query : SqlQuery)
  /-- A comparison with a pattern by the function with the given name. -/
  | matches (function : Text) (value pattern : SqlExpression) (escape : Option SqlExpression)
  | collate (value : SqlExpression) (collation : Text)
  | cast (value : SqlExpression) (typeName : Text)
  | cases (subject : Option SqlExpression) (branches : List (SqlExpression × SqlExpression))
      (otherwise : Option SqlExpression)
  | call (function : Text) (distinct : Bool) (arguments : List SqlExpression)
  /-- A function of all rows. -/
  | callOnAll (function : Text)
  | exists (query : SqlQuery)
  | scalar (query : SqlQuery)
  | row (items : List SqlExpression)
  /-- Gives up the statement or the row, within a trigger. -/
  | raise (resolution : Resolution) (message : Text)

inductive ResultColumn where
  | all
  | allOf (table : Text)
  /-- A value with its name, if it has one, and with its text. -/
  | value (value : SqlExpression) (otherName : Option Text) (written : Text)

inductive SqlSource where
  /-- A table, which may be one that rows are made of from values. -/
  | table (database : Option Text) (name : Text) (otherName : Option Text)
      (values : Option (List SqlExpression))
  | query (query : SqlQuery) (otherName : Option Text)
  | nested (sources : List JoinedSource)

inductive JoinedSource where
  | joined (kind : JoinKind) (source : SqlSource) (condition : Option SqlExpression)
      (common : List Text)

inductive OrderTerm where
  /-- What is missing comes first in an ascending order, unless the term says where it belongs. -/
  | by (value : SqlExpression) (descending : Bool) (nullsLast? : Option Bool)

inductive CommonTable where
  | named (name : Text) (columns : List Text) (query : SqlQuery)

inductive SqlQuery where
  | select (distinct : Bool) (columns : List ResultColumn) (sources : List JoinedSource)
      (condition : Option SqlExpression) (groups : List SqlExpression)
      (having : Option SqlExpression)
  | values (rows : List (List SqlExpression))
  | compound (operator : CompoundOperator) (first second : SqlQuery)
  | ordered (query : SqlQuery) (terms : List OrderTerm) (limit offset : Option SqlExpression)
  /-- A query in which some names stand for queries. -/
  | sharing (tables : List CommonTable) (query : SqlQuery)

end

/-- What a term of an order puts in order. -/
def OrderTerm.value : OrderTerm → SqlExpression
  | .by value _ _ => value

instance : Inhabited SqlExpression := ⟨.constant .null⟩

instance : Inhabited SqlQuery := ⟨.values []⟩

/-!
## Operators on cells

A calculation with something missing gives something missing.  Integers stay integers as long as the
result is in the range of the database; beyond it they become real numbers.  Comparisons and
conditions are true, false or unknown.
-/

namespace Cell

/-- An exact result if it is in the range, and otherwise the real one. -/
def exactOr (exact : Int) (real : Float) : Cell :=
  if inRange exact then .integer exact else ofReal real

/-- A calculation by a rule for integers and one for real numbers. -/
def calculate (exact : Int → Int → Int) (real : Float → Float → Float) (first second : Cell) :
    Cell :=
  match first.toNumber, second.toNumber with
  | .integer first, .integer second =>
      exactOr (exact first second) (real (realOf first) (realOf second))
  | first, second =>
      match first.toReal?, second.toReal? with
      | some first, some second => ofReal (real first second)
      | _, _ => .null

def add : Cell → Cell → Cell := calculate (· + ·) (· + ·)

def subtract : Cell → Cell → Cell := calculate (· - ·) (· - ·)

def multiply : Cell → Cell → Cell := calculate (· * ·) (· * ·)

/-- The quotient, towards zero between integers; missing for a divisor of zero. -/
def divide (first second : Cell) : Cell :=
  if second.truth? = some false then .null else calculate Int.tdiv (· / ·) first second

/-- The remainder of the integer parts, with the sign of the dividend. -/
def remainder (first second : Cell) : Cell :=
  match first.toInteger?, second.toInteger? with
  | some dividend, some divisor =>
      if divisor = 0 then .null
      else
        let result := Int.tmod dividend divisor
        match first.toNumber, second.toNumber with
        | .integer _, .integer _ => .integer result
        | _, _ => .real (realOf result)
  | _, _ => .null

/-- An integer of sixty-four bits without its sign. -/
def unsigned (value : Int) : Nat := (value % twoTo 64).toNat

/-- The integer with sixty-four bits. -/
def signed (bits : Nat) : Int :=
  let low : Nat := bits % twoTo 64
  if low < twoTo 63 then low else (low : Int) - twoTo 64

/-- An operation on integers. -/
def integers (operation : Int → Int → Int) (first second : Cell) : Cell :=
  match first.toInteger?, second.toInteger? with
  | some first, some second => .integer (operation first second)
  | _, _ => .null

/-- An integer with its bits moved to higher places, or to lower ones for a negative distance; the
sign fills the higher places. -/
def shifted (value distance : Int) : Int :=
  if 0 ≤ distance then
    if 64 ≤ distance then 0 else signed (unsigned value * twoTo distance.toNat)
  else if distance ≤ -64 then if value < 0 then -1 else 0
  else value / twoTo (-distance).toNat

def bitAnd : Cell → Cell → Cell :=
  integers fun first second => signed (unsigned first &&& unsigned second)

def bitOr : Cell → Cell → Cell :=
  integers fun first second => signed (unsigned first ||| unsigned second)

def shiftLeft : Cell → Cell → Cell := integers shifted

def shiftRight : Cell → Cell → Cell := integers fun value distance => shifted value (-distance)

/-- Both texts, one behind the other. -/
def concatenate (first second : Cell) : Cell :=
  match first.toText?, second.toText? with
  | some first, some second => .text (first ++ second)
  | _, _ => .null

/-- Whether both conditions are true. -/
def both (first second : Option Bool) : Option Bool :=
  if first = some false || second = some false then some false
  else if first = some true && second = some true then some true
  else none

/-- Whether one of two conditions is true. -/
def either (first second : Option Bool) : Option Bool :=
  (both (first.map not) (second.map not)).map not

/-- A comparison; unknown if something is missing. -/
def compare (operator : BinaryOperator) (collation : Collation) (first second : Cell) :
    Option Bool :=
  let same := first.sameBy collation second
  let le := first.leBy collation second
  match operator with
  | .is => some same
  | .isNot => some !same
  | _ =>
      if first.isNull || second.isNull then none
      else
        match operator with
        | .equal => some same
        | .unequal => some !same
        | .less => some (le && !same)
        | .lessEqual => some le
        | .greater => some !le
        | _ => some (!le || same)

/-- The value converted to a type. -/
def cast (affinity : Affinity) (cell : Cell) : Cell :=
  match cell with
  | .null => .null
  | cell =>
      match affinity with
      | .blob => .blob cell.toBytes
      | .text => .text (cell.toText?.getD [])
      | .integer => .integer (cell.toInteger?.getD 0)
      | .real => .real (cell.toReal?.getD 0)
      | .numeric =>
          match cell with
          | .integer _ | .real _ => cell
          | other => other.toNumber.asInteger

end Cell

end EventForge
