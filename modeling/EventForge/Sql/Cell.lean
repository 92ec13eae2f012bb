import EventForge.Sql.Decimal
import EventForge.Text.Utf8

/-!
# Cells

A cell of a table is missing, a number, a text or a blob.  A column has an affinity, which converts
the values that are stored in it or compared with it: a column for integers keeps a text that is
wholly a decimal number as a number, and a real number that is an integer as that integer.
-/

namespace EventForge

inductive Cell
  | null
  | integer (value : Int)
  | real (value : Float)
  | text (value : Text)
  | blob (value : Bytes)
deriving Inhabited

/-- What kind of value a column prefers. -/
inductive Affinity
  | integer
  | text
  | blob
  | real
  | numeric
deriving DecidableEq, Repr

namespace Affinity

/-- The affinity of a column by the name of its type. -/
def ofTypeName (name : Text) : Affinity :=
  let lowered := name.toAsciiLower
  if lowered.containsText "int" then .integer
  else if lowered.containsText "char" || lowered.containsText "clob" ||
      lowered.containsText "text" then .text
  else if lowered.containsText "blob" || lowered.isEmpty then .blob
  else if lowered.containsText "real" || lowered.containsText "floa" ||
      lowered.containsText "doub" then .real
  else .numeric

/-- Whether columns of the affinity prefer numbers. -/
def isNumeric : Affinity → Bool
  | .integer | .real | .numeric => true
  | .text | .blob => false

/-- The affinity that two sides of a comparison share; a side that is no column has none. -/
def shared : Option Affinity → Option Affinity → Affinity
  | some first, some second => if first.isNumeric || second.isNumeric then .numeric else .blob
  | some only, none | none, some only => only
  | none, none => .blob

end Affinity

/-- How texts are compared. -/
inductive Collation
  | binary
  | noCase
  | trimmed
deriving DecidableEq, Repr, Inhabited

namespace Collation

/-- The collation with a name, in any case. -/
def ofName? (name : Text) : Option Collation :=
  let lowered := name.toAsciiLower
  if lowered = ("binary" : Text) then some .binary
  else if lowered = ("nocase" : Text) then some .noCase
  else if lowered = ("rtrim" : Text) then some .trimmed
  else none

/-- What a text is compared by. -/
def key : Collation → Text → Text
  | .binary, text => text
  | .noCase, text => text.toAsciiLower
  | .trimmed, text => (text.reverse.dropWhile fun point => point.val = 0x20).reverse

end Collation

/-- A text taken apart as a decimal number. -/
structure NumberText where
  negative : Bool
  whole : Text
  /-- Whether a point follows the whole digits. -/
  pointed : Bool
  fraction : Text
  /-- The exponent behind its letter: `none` without a letter, no number if no digit follows. -/
  exponent : Option (Option Int)
  rest : Text
deriving Repr

namespace NumberText

def isSpace (point : CodePoint) : Bool :=
  point.val = 0x20 || (0x09 ≤ point.val && point.val ≤ 0x0D)

/-- Whether a text starts with a minus sign, and the text behind the sign that it starts with. -/
def takeSign : Text → Bool × Text
  | [] => (false, [])
  | sign :: rest =>
      if sign = '-' then (true, rest)
      else if sign = '+' then (false, rest)
      else (false, sign :: rest)

/-- The digits behind a point, if there is one, and the text behind them. -/
def takeFraction : Text → Bool × Text × Text
  | [] => (false, [], [])
  | point :: rest =>
      if point = '.' then
        (true, rest.takeWhile CodePoint.isAsciiDigit, rest.dropWhile CodePoint.isAsciiDigit)
      else (false, [], point :: rest)

/-- The exponent behind its letter, if there is one, and the text behind it. -/
def takeExponent : Text → Option (Option Int) × Text
  | [] => (none, [])
  | letter :: rest =>
      if letter = 'e' || letter = 'E' then
        let (negative, unsigned) := takeSign rest
        let digits := unsigned.takeWhile CodePoint.isAsciiDigit
        let size : Int := Text.digitsValue digits
        (some (if digits.isEmpty then none else some (if negative then -size else size)),
          unsigned.drop digits.length)
      else (none, letter :: rest)

def ofText (text : Text) : NumberText :=
  let (negative, unsigned) := takeSign (text.dropWhile isSpace)
  let whole := unsigned.takeWhile CodePoint.isAsciiDigit
  let (pointed, fraction, rest) := takeFraction (unsigned.drop whole.length)
  let (exponent, rest) := takeExponent rest
  { negative, whole, pointed, fraction, exponent, rest := rest.dropWhile isSpace }

def hasDigits (number : NumberText) : Bool := !number.whole.isEmpty || !number.fraction.isEmpty

/-- Whether the text has neither a point nor an exponent. -/
def isPlain (number : NumberText) : Bool := !number.pointed && number.exponent.isNone

/-- Whether the whole text is a number. -/
def isWhole (number : NumberText) : Bool :=
  number.hasDigits && number.exponent ≠ some none && number.rest.isEmpty

/-- The integer that the whole digits name. -/
def integer (number : NumberText) : Int :=
  let size : Int := Text.digitsValue number.whole
  if number.negative then -size else size

def real (number : NumberText) : Float :=
  Decimal.read number.negative number.whole number.fraction ((number.exponent.bind id).getD 0)

end NumberText

namespace Cell

/-- Integers that the database holds. -/
def inRange (value : Int) : Bool := -(twoTo 63) ≤ value && value < twoTo 63

/-- The integer of the database that is nearest to a given one. -/
def clamp (value : Int) : Int := max (-(twoTo 63)) (min (twoTo 63 - 1) value)

/-- An integer as a real number. -/
def realOf (value : Int) : Float := (Binary64.ofInt? value).getD 0

/-- A real number that is an integer strictly inside the range becomes that integer. -/
def integerIfExact (value : Float) : Cell :=
  match Binary64.exactInt? value with
  | some number =>
      if -(twoTo 63) < number && number < twoTo 63 - 1 then .integer number else .real value
  | none => .real value

/-- The number that a text wholly is; blanks may stand around it. -/
def number? (text : Text) : Option Cell :=
  let found := NumberText.ofText text
  if !found.isWhole then none
  else if found.isPlain && inRange found.integer then some (.integer found.integer)
  else some (.real found.real)

/-- The number that a text starts with, zero if there is none. -/
def leadingNumber (text : Text) : Cell :=
  let found := NumberText.ofText text
  if found.isWhole then (number? text).getD (.integer 0)
  else if found.hasDigits && (found.pointed || found.exponent.bind id ≠ none) then .real found.real
  else .integer (clamp found.integer)

/-- What stands in a text for a byte that belongs to no code point: a surrogate, which no statement
holds. -/
def strayPoint (byte : UInt8) : CodePoint := CodePoint.ofNat (0xDC00 + byte.toNat)

/-- The text from some bytes on, of which the first `pending` belong to the code point in front. -/
def textFrom (pending : Nat) : Bytes → Text
  | [] => []
  | byte :: rest =>
      match pending with
      | pending + 1 => textFrom pending rest
      | 0 =>
          match Utf8.decodeFirst byte rest with
          | .ok (point, length) => point :: textFrom (length - 1) rest
          | .error _ => strayPoint byte :: textFrom 0 rest

/-- The text that bytes encode, in which bytes that encode nothing are kept. -/
def textOfBlob (bytes : Bytes) : Text := textFrom 0 bytes

/-- The bytes of a text. -/
def bytesOfText (value : Text) : Bytes :=
  value.flatMap fun point =>
    if point.isSurrogate then [UInt8.ofNat (point.val % 256)] else Utf8.encodePoint point

/-- Whether a text has bytes that encode nothing. -/
def isStray : Cell → Bool
  | Cell.text value => value.any CodePoint.isSurrogate
  | _ => false

/-- A number that an affinity for integers has converted. -/
def asInteger : Cell → Cell
  | .real value => integerIfExact value
  | other => other

/-- A number as the text of a column for texts. -/
def asText : Cell → Cell
  | .integer value => .text (Text.ofInt value)
  | .real value => .text (Decimal.text value)
  | other => other

/-- A text that is wholly a number becomes that number. -/
def asNumber : Cell → Cell
  | .text value => (number? value).getD (.text value)
  | other => other

/-- The value that a column stores.  A zero in a column for real numbers has no sign. -/
def stored (affinity : Affinity) (cell : Cell) : Cell :=
  match affinity with
  | .integer | .numeric => cell.asNumber.asInteger
  | .real =>
      match cell.asNumber with
      | .integer value => .real (realOf value)
      | .real value => .real (if value == 0.0 then 0.0 else value)
      | other => other
  | .text => cell.asText
  | .blob => cell

/-- The value that a column is compared with. -/
def compared (affinity : Affinity) (cell : Cell) : Cell :=
  match affinity with
  | .integer | .numeric | .real => cell.asNumber
  | .text => cell.asText
  | .blob => cell

/-- The value as a number in a calculation. -/
def toNumber : Cell → Cell
  | .text value => leadingNumber value
  | .blob value => leadingNumber (textOfBlob value)
  | other => other

/-- The integer part of a value, brought into the range; `none` if the value is missing. -/
def toInteger? : Cell → Option Int
  | .null => none
  | .integer value => some value
  | .real value =>
      match Binary64.ofFloat value with
      | .finite negative significand exponent =>
          some (clamp (Binary64.truncate negative significand exponent))
      | .infinite negative => some (if negative then -(twoTo 63) else twoTo 63 - 1)
      | .nan => some 0
  | .text value => some (clamp (NumberText.ofText value).integer)
  | .blob value => some (clamp (NumberText.ofText (textOfBlob value)).integer)

/-- The value as a real number; `none` if it is missing. -/
def toReal? (cell : Cell) : Option Float :=
  match cell.toNumber with
  | .integer value => some (realOf value)
  | .real value => some value
  | _ => none

/-- The value as a text; `none` if it is missing. -/
def toText? : Cell → Option Text
  | .null => none
  | .integer value => some (Text.ofInt value)
  | .real value => some (Decimal.text value)
  | .text value => some value
  | .blob value => some (textOfBlob value)

/-- The bytes of a value. -/
def toBytes (cell : Cell) : Bytes :=
  match cell with
  | .blob value => value
  | other => bytesOfText (other.toText?.getD [])

/-- A real number, which is missing if it is none. -/
def ofReal (value : Float) : Cell := if value.isNaN then .null else .real value

/-- Whether a value is true; `none` if it is missing. -/
def truth? (cell : Cell) : Option Bool :=
  match cell.toNumber with
  | .integer value => some (value ≠ 0)
  | .real value => some (!(value == 0.0))
  | _ => none

/-- A truth value, perhaps missing. -/
def ofTruth? : Option Bool → Cell
  | none => .null
  | some value => .integer (if value then 1 else 0)

/-- Missing values come first, then numbers, texts and blobs. -/
def rank : Cell → Nat
  | .null => 0
  | .integer _ | .real _ => 1
  | .text _ => 2
  | .blob _ => 3

def isNull (cell : Cell) : Bool := cell.rank = 0

def isBlob (cell : Cell) : Bool := cell.rank = 3

/-- The ratio that a number is; `none` stands for an infinite one. -/
def ratio? : Cell → Option (Int × Nat)
  | .integer value => some (value, 1)
  | .real value =>
      match Binary64.ofFloat value with
      | .finite negative significand exponent =>
          some (Binary64.ratio negative significand exponent)
      | _ => none
  | _ => none

/-- Whether a number is infinite downwards. -/
def isLowest : Cell → Bool
  | .real value => Binary64.ofFloat value == .infinite true
  | _ => false

/-- Whether the first of two numbers is at most the second. -/
def numberLe (first second : Cell) : Bool :=
  match first.ratio?, second.ratio? with
  | some (firstTop, firstBottom), some (secondTop, secondBottom) =>
      firstTop * secondBottom ≤ secondTop * firstBottom
  | none, some _ => first.isLowest
  | some _, none => !second.isLowest
  | none, none => first.isLowest || !second.isLowest

/-- The order of cells, in which texts are compared as a collation says. -/
def leBy (collation : Collation) (first second : Cell) : Bool :=
  if first.rank ≠ second.rank then first.rank < second.rank
  else
    match first, second with
    | .null, _ => true
    | .text first, .text second => Text.le (collation.key first) (collation.key second)
    | .blob first, .blob second => decide (first ≤ second)
    | first, second => numberLe first second

/-- Whether two cells are at the same place in their order. -/
def sameBy (collation : Collation) (first second : Cell) : Bool :=
  leBy collation first second && leBy collation second first

/-- The order of cells. -/
def le (first second : Cell) : Bool := leBy .binary first second

end Cell

end EventForge
