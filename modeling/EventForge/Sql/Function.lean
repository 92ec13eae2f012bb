import EventForge.Sql.Cell
import EventForge.Sql.Fault
import EventForge.Sql.JsonFunction
import EventForge.Sql.Moment

/-!
# Functions

What functions calculate from numbers and texts, and how a function is found by its name.
-/

namespace EventForge

/-!
## Functions of numbers and texts

Mathematical functions, patterns, and the sound of a word.
-/

/-!
## Mathematical functions of the database

A mathematical function takes numbers and texts that are wholly numbers; every other value is
missing to it, and so is a result that is no number.  Rounding to an integer keeps integers.
-/

namespace MathFunction

/-- The number that a value is or wholly names. -/
def number? (cell : Cell) : Option Float :=
  match cell.asNumber with
  | .integer value => some (Cell.realOf value)
  | .real value => some value
  | _ => none

/-- The double for a ratio with a sign. -/
def ratio (negative : Bool) (numerator denominator : Nat) : Float :=
  Binary64.nearest negative numerator denominator

/-- The number of the circle. -/
def pi : Float := ratio false 314159265358979323846 (tenTo 20)

/-- An integer next to a number; a zero keeps the sign of the number. -/
def whole (choose : Bool → Nat → Nat → Nat) (value : Float) : Float :=
  match Binary64.ofFloat value with
  | .finite negative significand exponent =>
      let (top, bottom) := Binary64.scaleBinary significand 1 exponent
      ratio negative (choose negative top bottom) 1
  | _ => value

/-- The magnitude of the integer below a number. -/
def below (negative : Bool) (top bottom : Nat) : Nat :=
  if negative && top % bottom ≠ 0 then top / bottom + 1 else top / bottom

/-- The magnitude of the integer above a number. -/
def above (negative : Bool) (top bottom : Nat) : Nat := below (!negative) top bottom

/-- The magnitude of the integer next to a number in the direction of zero. -/
def inward (_ : Bool) (top bottom : Nat) : Nat := top / bottom

/-- A number rounded to an integer; an integer stays. -/
def roundedBy (choose : Bool → Nat → Nat → Nat) (cell : Cell) : Cell :=
  match cell.asNumber with
  | .integer value => .integer value
  | .real value => Cell.ofReal (whole choose value)
  | _ => .null

/-- What is left of a number when a second one is taken away as often as it goes; the sign is that
of the first. -/
def remainder (first second : Float) : Float :=
  match Binary64.ofFloat first, Binary64.ofFloat second with
  | .finite negative significand exponent, .finite _ significand2 exponent2 =>
      let (top, bottom) := Binary64.scaleBinary significand 1 exponent
      let (top2, bottom2) := Binary64.scaleBinary significand2 1 exponent2
      if top2 = 0 then 0 / 0
      else ratio negative (top * bottom2 % (top2 * bottom)) (bottom * bottom2)
  | .finite _ _ _, .infinite _ => first
  | _, _ => 0 / 0

/-- The functions of one number. -/
def unary? (name : Text) : Option (Float → Float) :=
  match name.toString with
  | "acos" => some Float.acos
  | "acosh" => some Float.acosh
  | "asin" => some Float.asin
  | "asinh" => some Float.asinh
  | "atan" => some Float.atan
  | "atanh" => some Float.atanh
  | "cos" => some Float.cos
  | "cosh" => some Float.cosh
  | "degrees" => some fun value => value * (180 / pi)
  | "exp" => some Float.exp
  | "radians" => some fun value => value * (pi / 180)
  | "sin" => some Float.sin
  | "sinh" => some Float.sinh
  | "sqrt" => some Float.sqrt
  | "tan" => some Float.tan
  | "tanh" => some Float.tanh
  | _ => none

/-- The functions of one number above zero. -/
def logarithm? (name : Text) : Option (Float → Float) :=
  match name.toString with
  | "ln" => some Float.log
  | "log" | "log10" => some Float.log10
  | "log2" => some Float.log2
  | _ => none

/-- The functions that round to an integer. -/
def rounding? (name : Text) : Option (Bool → Nat → Nat → Nat) :=
  match name.toString with
  | "ceil" | "ceiling" => some above
  | "floor" => some below
  | "trunc" => some inward
  | _ => none

/-- The functions of two numbers. -/
def binary? (name : Text) : Option (Float → Float → Option Float) :=
  match name.toString with
  | "atan2" => some fun first second => some (Float.atan2 first second)
  | "log" =>
      some fun base value =>
        if base ≤ 0 || value ≤ 0 || Float.log base ≤ 0 then none
        else some (Float.log value / Float.log base)
  | "mod" => some fun first second => some (remainder first second)
  | "pow" | "power" => some fun base exponent => some (Float.pow base exponent)
  | _ => none

/-- The value of a function; `none` if it takes another number of values or does not exist. -/
def value? (name : Text) (cells : List Cell) : Option Cell :=
  let ofReal? (value : Option Float) : Cell := (value.map Cell.ofReal).getD .null
  match cells with
  | [] => if name = ("pi" : Text) then some (.real pi) else none
  | [cell] =>
      match unary? name, logarithm? name, rounding? name with
      | some function, _, _ => some (ofReal? ((number? cell).map function))
      | _, some function, _ =>
          some (ofReal? ((number? cell).bind fun value =>
            if value ≤ 0 then none else some (function value)))
      | _, _, some choose => some (roundedBy choose cell)
      | none, none, none => none
  | [first, second] =>
      (binary? name).map fun function =>
        ofReal? (do
          let other ← if name = ("log" : Text) then some (second.toReal?.getD 0) else number? second
          function (← number? first) other)
  | _ => none

/-- All of these functions. -/
def names : List Text := List.map Text.ofString [
  "acos", "acosh", "asin", "asinh", "atan", "atan2", "atanh", "ceil", "ceiling", "cos", "cosh",
  "degrees", "exp", "floor", "ln", "log", "log10", "log2", "mod", "pi", "pow", "power", "radians",
  "sin", "sinh", "sqrt", "tan", "tanh", "trunc"]

end MathFunction

/-!
## Patterns

A text can be compared with a pattern in two ways.  In one `%` stands for any text and `_` for any
code point, and the case of ASCII letters does not matter; in the other these are `*`, `?` and
classes in brackets.
-/

namespace SqlPattern

/-- Whether a text fits a pattern, in which `%` stands for any text and `_` for any code point.
Case does not matter for ASCII letters. -/
def likes (escape : Option CodePoint) : Text → Text → Bool
  | [], text => text.isEmpty
  | mark :: pattern, text =>
      if escape = some mark then
        match pattern, text with
        | meant :: pattern, point :: text =>
            meant.toAsciiLower = point.toAsciiLower && likes escape pattern text
        | _, _ => false
      else if mark = '%' then
        likes escape pattern text ||
          match text with
          | [] => false
          | _ :: text => likes escape (mark :: pattern) text
      else
        match text with
        | [] => false
        | point :: text =>
            (mark = '_' || mark.toAsciiLower = point.toAsciiLower) && likes escape pattern text
termination_by pattern text => pattern.length + text.length

/-- Whether a code point is among those of a class in brackets; the class ends the list. -/
def inClass (point : CodePoint) : Text → Bool
  | low :: dash :: high :: rest =>
      if dash = '-' then
        (low ≤ point && point ≤ high) || inClass point rest
      else low = point || inClass point (dash :: high :: rest)
  | other :: rest => other = point || inClass point rest
  | [] => false

/-- The content of a class behind its opening bracket, and the pattern behind its closing one. -/
def classAt (pattern : Text) : Bool × Text × Text :=
  let (negated, pattern) : Bool × Text :=
    match pattern with
    | mark :: rest => if mark = '^' then (true, rest) else (false, pattern)
    | [] => (false, [])
  let first : Text :=
    match pattern with
    | mark :: _ => if mark = ']' then [mark] else []
    | [] => []
  let content := first ++
    (pattern.drop first.length).takeWhile fun point => point ≠ CodePoint.ofChar ']'
  (negated, content, pattern.drop (content.length + 1))

/-- Whether a text fits a pattern, in which `*` stands for any text, `?` for any code point, and
brackets for one of some code points. -/
def globs : Nat → Text → Text → Bool
  | 0, _, _ => false
  | _ + 1, [], text => text.isEmpty
  | fuel + 1, mark :: pattern, text =>
      if mark = '*' then
        globs fuel pattern text ||
          match text with
          | [] => false
          | _ :: text => globs fuel (mark :: pattern) text
      else
        match text with
        | [] => false
        | point :: text =>
            if mark = '[' then
              let (negated, content, pattern) := classAt pattern
              (inClass point content) ≠ negated && globs fuel pattern text
            else (mark = '?' || mark = point) && globs fuel pattern text

/-- The single code point that can stand in front of a mark in a pattern. -/
def escapeOf (escape : Cell) : Except SqlRefusal (Option CodePoint) :=
  match escape.toText? with
  | none => .ok none
  | some [point] => .ok (some point)
  | some _ => .error (.other "ESCAPE expression must be a single character")

/-- A comparison of a value with a pattern; `none` if either is missing.  No pattern fits a blob. -/
def matches? (function : Text) (value pattern : Cell) (escape : Option Cell) :
    Except SqlRefusal (Option Bool) := do
  let name := function.toAsciiLower.toString
  if (name = "like" || name = "glob") && (value.isBlob || pattern.isBlob) then return some false
  match name, escape with
  | "like", escape =>
      let mark ← escape.mapM escapeOf
      if mark = some none then return none
      return do
        let text ← value.toText?
        let pattern ← pattern.toText?
        return likes (mark.bind id) pattern text
  | "glob", _ =>
      return do
        let text ← value.toText?
        let pattern ← pattern.toText?
        return globs (text.length + pattern.length + 1) pattern text
  | _, _ =>
      throw (.other "unable to use function MATCH in the requested context")

/-- Refuses a function that cannot compare with patterns, or not with a mark of its own. -/
def check (function : Text) (hasEscape : Bool) : Except SqlRefusal Unit :=
  match function.toAsciiLower.toString with
  | "like" => .ok ()
  | "regexp" => .error (.noFunction function)
  | _ => if hasEscape then .error (.argumentCount function) else .ok ()

end SqlPattern

/-!
## Codes for how names sound

The code of a name is its first letter and three digits for the consonants behind it.  Neighbours
that sound alike count once, unless a vowel stands between them.  Of every byte seven bits count.
-/

namespace Soundex

/-- The digit of a letter by its place in the alphabet: zero for vowels and for letters that are not
heard. -/
def digits : List Nat :=
  [0, 1, 2, 3, 0, 1, 2, 0, 0, 2, 2, 4, 5, 5, 0, 1, 2, 6, 2, 3, 0, 1, 0, 2, 0, 2]

/-- The letter that a byte stands for. -/
def letter (byte : UInt8) : CodePoint := (CodePoint.ofNat (byte.toNat % 128)).toAsciiLower

/-- The digit of a byte. -/
def digit (byte : UInt8) : Nat :=
  if (letter byte).isAsciiLower then digits.getD ((letter byte).val - 97) 0 else 0

/-- The digits of bytes behind one with a digit. -/
def code (before : Nat) : Bytes → List Nat
  | [] => []
  | byte :: bytes =>
      let found := digit byte
      if found = 0 || found = before then code found bytes else found :: code found bytes

/-- The code of a text; the text may start with anything but letters, and may have none. -/
def ofText (text : Text) : Text :=
  let isLetter (byte : UInt8) : Bool := byte.toNat < 128 && (letter byte).isAsciiLower
  match (Cell.bytesOfText text).dropWhile fun byte => !isLetter byte with
  | [] => "?000"
  | first :: rest =>
      let found := (code (digit first) rest).take 3
      CodePoint.ofNat ((letter first).val - 32) ::
        (found ++ List.replicate (3 - found.length) 0).map fun digit => CodePoint.ofNat (48 + digit)

end Soundex

/-!
## Functions of the database

Functions calculate a value from other values, and aggregates from the values of several rows.  A
function is found by its name, in any case, and takes a limited number of values.
-/

namespace SqlFunction

/-- The kind of a value. -/
def typeOf : Cell → Text
  | .null => "null"
  | .integer _ => "integer"
  | .real _ => "real"
  | .text _ => "text"
  | .blob _ => "blob"

/-- Bytes as capital hexadecimal digits. -/
def hex (bytes : Bytes) : Text :=
  SqlRefusal.capitals (bytes.flatMap fun byte => Text.ofHex 2 byte.toNat)

/-- A value as it is written in a statement. -/
def quoted : Cell → Text
  | .null => "NULL"
  | .text text =>
      let doubled : Text := text.flatMap fun point : CodePoint =>
        if point = '\'' then [point, point] else [point]
      ("'" : Text) ++ doubled ++ "'"
  | .blob bytes => ("X'" : Text) ++ hex bytes ++ "'"
  | other => other.toText?.getD []

/-- The code point with a number; a surrogate has bytes that encode nothing. -/
def pointText (number : Int) : Text :=
  let point := if number < 0 then 0xFFFD else CodePoint.ofNat number.toNat
  if point.isSurrogate then Cell.textOfBlob (Utf8.encodePoint point) else [point]

/-- A number without its sign. -/
def absolute (cell : Cell) : Except SqlRefusal Cell :=
  match cell with
  | .integer value =>
      if value = -(twoTo 63) then .error .overflow else .ok (.integer value.natAbs)
  | .null => .ok .null
  | other =>
      let value := other.toReal?.getD 0
      .ok (.real (if value < 0 then -value else value))

/-- A part of a list from a position on; positions count from one, negative ones from the end, and a
negative length goes backwards. -/
def slice {Value : Type} (items : List Value) (start : Int) (length : Option Int) : List Value :=
  let size : Int := items.length
  let begin := if start < 0 then size + start else start - 1
  let (low, high) : Int × Int :=
    match length with
    | none => (begin, size)
    | some length => if length < 0 then (begin + length, begin) else (begin, begin + length)
  let low := max low 0
  if high ≤ low then [] else (items.drop low.toNat).take (high - low).toNat

/-- The position of a part in a list, counted from one; zero if it is not there. -/
def positionOf {Value : Type} [BEq Value] (part : List Value) : List Value → Nat → Nat
  | [], position => if part.isEmpty then position else 0
  | item :: items, position =>
      if part.isPrefixOf (item :: items) then position else positionOf part items (position + 1)

/-- A text with every occurrence of a part replaced. -/
def replaced (part new : Text) : Nat → Text → Text
  | 0, text => text
  | _ + 1, [] => []
  | fuel + 1, point :: rest =>
      if part.isPrefixOf (point :: rest) then
        new ++ replaced part new fuel ((point :: rest).drop part.length)
      else point :: replaced part new fuel rest

/-- The texts at whose ends a text is trimmed. -/
def trimmed (left right : Bool) (points text : Text) : Text :=
  let drop (point : CodePoint) : Bool := points.contains point
  let text := if left then text.dropWhile drop else text
  if right then (text.reverse.dropWhile drop).reverse else text

/-- The least or the greatest of some values; missing if one of them is. -/
def extreme (greatest : Bool) : List Cell → Cell
  | [] => .null
  | first :: cells =>
      if (first :: cells).any Cell.isNull then .null
      else
        cells.foldl (fun best cell =>
          if greatest then if cell.le best then best else cell
          else if best.le cell then best else cell) first

/-- The first value that is not missing. -/
def firstPresent (cells : List Cell) : Cell :=
  (cells.find? fun cell => !cell.isNull).getD .null

/-- A text made from a value by a function; missing if the value is. -/
def ofText (value : Cell) (change : Text → Text) : Cell :=
  match value.toText? with
  | some text => .text (change text)
  | none => .null

/-- A text trimmed of the code points of another one; missing if either is. -/
def trimmedBy (left right : Bool) (points value : Cell) : Cell :=
  match points.toText? with
  | some points => ofText value (trimmed left right points)
  | none => .null

/-- A part of a value. -/
def partOf (value start : Cell) (length : Option Cell) : Cell :=
  let number? (cell : Cell) : Option Int := cell.toInteger?.map FormatDirective.narrow
  match value, number? start, length.map number? with
  | .null, _, _ | _, none, _ | _, _, some none => .null
  | .blob bytes, some start, length => .blob (slice bytes start (length.bind id))
  | other, some start, length =>
      .text (slice (FormatDirective.beforeNul (other.toText?.getD [])) start (length.bind id))

/-- The present moment by the function that gives it.  The clock of the database stands still. -/
def presentText? (name : Text) : Option Text :=
  match name.toString with
  | "current_date" => some "1970-01-01"
  | "current_time" => some "00:00:00"
  | "current_timestamp" => some "1970-01-01 00:00:00"
  | _ => none

/-- Functions whose values cannot be predicted. -/
def unpredictable : List Text :=
  ["current_date", "current_time", "current_timestamp", "match", "random", "randomblob", "changes",
    "total_changes", "last_insert_rowid"]

/-- A text or a blob is longer than any can be. -/
def tooLong : SqlRefusal := .other "string or blob too big"

/-- A blob of zeros. -/
def blobOf (size : Nat) : Except SqlRefusal (Option Cell) :=
  if Format.limit < size then .error tooLong else .ok (some (.blob (List.replicate size 0)))

/-- The value of a function; `none` if it takes another number of values or does not exist. -/
def value? (name : Text) (cells : List Cell) : Except SqlRefusal (Option Cell) :=
  let ok (cell : Cell) : Except SqlRefusal (Option Cell) := .ok (some cell)
  let ofInt (number : Int) : Except SqlRefusal (Option Cell) := .ok (some (.integer number))
  match (name.toString, cells) with
  | ("abs", [cell]) => (absolute cell).map some
  | ("changes", []) | ("last_insert_rowid", []) | ("random", []) | ("total_changes", []) =>
      ofInt 0
  | ("char", cells) =>
      ok (.text (cells.flatMap fun cell => pointText (cell.toInteger?.getD 0)))
  | ("coalesce", first :: second :: cells) => ok (firstPresent (first :: second :: cells))
  | ("format", []) | ("printf", []) => ok .null
  | ("format", format :: cells) | ("printf", format :: cells) =>
      ok ((format.toText?.map fun text => Format.apply text cells).getD .null)
  | ("glob", [pattern, value]) => return some (Cell.ofTruth? (← SqlPattern.matches? name value pattern none))
  | ("hex", [cell]) => ok (.text (hex cell.toBytes))
  | ("ifnull", [first, second]) => ok (firstPresent [first, second])
  | ("iif", [condition, first, second]) =>
      ok (if condition.truth? = some true then first else second)
  | ("instr", [value, part]) =>
      match value, part with
      | .null, _ | _, .null => ok .null
      | .blob bytes, .blob part => ofInt (positionOf part bytes 1)
      | value, part => ofInt (positionOf (part.toText?.getD []) (value.toText?.getD []) 1)
  | ("length", [cell]) =>
      match cell with
      | .null => ok .null
      | .blob bytes => ofInt bytes.length
      | other => ofInt (FormatDirective.beforeNul (other.toText?.getD [])).length
  | ("like", [pattern, value]) => return some (Cell.ofTruth? (← SqlPattern.matches? name value pattern none))
  | ("like", [pattern, value, escape]) =>
      return some (Cell.ofTruth? (← SqlPattern.matches? name value pattern (some escape)))
  | ("likelihood", [cell, _]) | ("likely", [cell]) | ("unlikely", [cell]) => ok cell
  | ("lower", [cell]) => ok (ofText cell Text.toAsciiLower)
  | ("upper", [cell]) => ok (ofText cell SqlRefusal.capitals)
  | ("ltrim", [cell]) => ok (ofText cell (trimmed true false " "))
  | ("rtrim", [cell]) => ok (ofText cell (trimmed false true " "))
  | ("trim", [cell]) => ok (ofText cell (trimmed true true " "))
  | ("ltrim", [cell, points]) => ok (trimmedBy true false points cell)
  | ("rtrim", [cell, points]) => ok (trimmedBy false true points cell)
  | ("trim", [cell, points]) => ok (trimmedBy true true points cell)
  | ("max", first :: second :: cells) => ok (extreme true (first :: second :: cells))
  | ("min", first :: second :: cells) => ok (extreme false (first :: second :: cells))
  | ("nullif", [first, second]) => ok (if first.sameBy .binary second then .null else first)
  | ("quote", [cell]) => ok (.text (quoted cell))
  | ("randomblob", [cell]) => blobOf (Nat.max (cell.toInteger?.getD 0).toNat 1)
  | ("zeroblob", [cell]) => blobOf (cell.toInteger?.getD 0).toNat
  | ("replace", [value, part, new]) =>
      match value.toText?, part.toText?, new.toText? with
      | some text, some part, some new =>
          ok (.text (if part.isEmpty then text else replaced part new (text.length + 1) text))
      | _, _, _ => ok .null
  | ("round", [cell]) =>
      ok ((cell.toReal?.map fun value => Cell.real (Decimal.rounded 0 value)).getD .null)
  | ("round", [cell, places]) =>
      match cell.toReal?, places.toInteger? with
      | some value, some places =>
          let places := min (FormatDirective.narrow places) 30
          ok (.real (Decimal.rounded places.toNat value))
      | _, _ => ok .null
  | ("sign", [cell]) =>
      match cell.asNumber with
      | .integer value => ofInt value.sign
      | .real value => ofInt (if 0 < value then 1 else if value < 0 then -1 else 0)
      | _ => ok .null
  | ("soundex", [cell]) => ok (.text (Soundex.ofText (FormatDirective.beforeNul (cell.toText?.getD []))))
  | ("sqlite_version", []) => ok (.text "3.40.1")
  | ("substr", [value, start]) | ("substring", [value, start]) => ok (partOf value start none)
  | ("substr", [value, start, length]) | ("substring", [value, start, length]) =>
      ok (partOf value start (some length))
  | ("typeof", [cell]) => ok (.text (typeOf cell))
  | ("unicode", [cell]) =>
      match (FormatDirective.beforeNul (cell.toText?.getD [])).head? with
      | some point => ofInt point.val
      | none => ok .null
  | (_, cells) =>
      match if cells.isEmpty then presentText? name else none with
      | some text => ok (.text text)
      | none =>
          if SqlMoment.functions.contains name then ok (SqlMoment.value name cells)
          else .ok (MathFunction.value? name cells)

/-- All functions of values. -/
def names : List Text := List.map Text.ofString [
  "abs", "changes", "char", "coalesce", "format", "glob", "hex", "ifnull", "iif", "instr",
  "last_insert_rowid", "length", "like", "likelihood", "likely", "lower", "ltrim", "max", "min",
  "nullif", "printf", "quote", "random", "randomblob", "replace", "round", "rtrim", "sign",
  "soundex", "sqlite_version", "substr", "substring", "total_changes", "trim", "typeof",
  "unicode", "unlikely", "upper", "zeroblob"] ++ MathFunction.names ++
  JsonFunction.names

/-- Whether a function looks at no more values than it needs. -/
def isLazy (name : Text) : Bool := ([ "coalesce", "ifnull", "iif" ] : List Text).contains name

/-- The aggregates of values, with how many values they take at least and at most. -/
def aggregates : List (Text × Nat × Nat) := [
  ("avg", 1, 1), ("count", 0, 1), ("group_concat", 1, 2), ("json_group_array", 1, 1),
  ("json_group_object", 2, 2), ("max", 1, 1), ("min", 1, 1), ("sum", 1, 1), ("total", 1, 1)]

/-- Whether an aggregate counts rows in which its first value is missing. -/
def keepsMissing (name : Text) : Bool := Text.startsWith name "json_group_"

/-- Whether a call is one of an aggregate. -/
def isAggregate (name : Text) (count : Nat) : Bool :=
  match aggregates.find? fun entry => entry.1 = name with
  | some (_, low, high) =>
      (low ≤ count && count ≤ high) || !(names.contains name)
  | none => false

/-- Whether an aggregate takes so many values. -/
def takes (name : Text) (count : Nat) : Bool :=
  aggregates.any fun entry => entry.1 = name && entry.2.1 ≤ count && count ≤ entry.2.2

/-- Why a function cannot be called with so many values, if it cannot. -/
def fault? (function : Text) (count : Nat) : Option SqlRefusal :=
  let name := function.toAsciiLower
  let isKnown := names.contains name || SqlMoment.functions.contains name ||
    (presentText? name).isSome || aggregates.any fun entry => entry.1 = name
  let fits : Bool :=
    isAggregate name count && takes name count || JsonFunction.takes name count ||
      match value? name (List.replicate count .null) with
      | .ok none => false
      | _ => true
  if !isKnown then some (.noFunction function)
  else if !fits then some (.argumentCount function)
  else none

/-- The value of a function. -/
def value (name : Text) (cells : List Cell) : Except SqlRefusal Cell := do
  match ← value? name cells with
  | some cell => return cell
  | none => throw (.noFunction name)

/-- The sum of numbers: an integer if all of them are. -/
def sum (cells : List Cell) : Except SqlRefusal Cell :=
  let numbers := cells.map Cell.toNumber
  if numbers.isEmpty then .ok .null
  else if cells.all fun cell => match cell with | .integer _ => true | _ => false then
    let result := numbers.foldl (fun result cell => result + cell.toInteger?.getD 0) 0
    if Cell.inRange result then .ok (.integer result) else .error .overflow
  else .ok (Cell.ofReal (numbers.foldl (fun result cell => result + cell.toReal?.getD 0) 0))

/-- The value of an aggregate over the values in its rows, of which none is missing. -/
def aggregate (name : Text) (rows : List (List Cell)) : Except SqlRefusal Cell :=
  let cells := rows.map fun row => row.headD .null
  match name.toString with
  | "count" => .ok (.integer rows.length)
  | "sum" => sum cells
  | "total" => .ok (.real (cells.foldl (fun result cell => result + cell.toReal?.getD 0) 0))
  | "avg" =>
      .ok (if cells.isEmpty then .null
        else Cell.ofReal ((cells.foldl (fun result cell => result + cell.toReal?.getD 0) 0) /
          Float.ofNat cells.length))
  | "min" => .ok (extreme false cells)
  | "max" => .ok (extreme true cells)
  | _ =>
      .ok (if rows.isEmpty then .null
        else .text ((rows.zipIdx.flatMap fun entry =>
          let separator := ((entry.1[1]?).bind Cell.toText?).getD ","
          (if entry.2 = 0 then [] else separator) ++ ((entry.1.headD .null).toText?.getD []))))

end SqlFunction

end EventForge
