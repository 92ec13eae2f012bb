import EventForge.Document.Basic
import EventForge.Fault
import EventForge.Number.Reading
import EventForge.Text.Basic
import EventForge.Text.Utf8

/-!
# Values of settings

Durations and integers are read from texts and numbers, each by rules of its own.
-/

namespace EventForge

/-!
## Durations

A duration is a number of seconds, or a sequence of decimal numbers each with its unit.  Blanks
around the text do not matter.
-/

inductive TimeUnit
  | nanosecond
  | microsecond
  | millisecond
  | second
  | minute
  | hour
deriving DecidableEq, Repr

namespace TimeUnit

/-- The spellings of units, longer ones in front of their own beginnings. -/
def spellings : List (Text × TimeUnit) :=
  [("ns", .nanosecond), ("us", .microsecond), ("µs", .microsecond), ("ms", .millisecond),
    ("s", .second), ("m", .minute), ("h", .hour)]

/-- The seconds in a unit. -/
def seconds : TimeUnit → Float
  | .nanosecond => 1e-9
  | .microsecond => 1e-6
  | .millisecond => 1e-3
  | .second => 1.0
  | .minute => 60.0
  | .hour => 3600.0

/-- The unit at the front of a text and the text behind it. -/
def read? (text : Text) : Option (TimeUnit × Text) :=
  spellings.findSome? fun entry =>
    (Text.dropLead? text entry.1).map fun rest => (entry.2, rest)

end TimeUnit

/-- Why a value is no duration. -/
inductive DurationFault
  | invalid (shown : Text)
  | tooLarge
deriving DecidableEq, Repr

namespace DurationFault

def message : DurationFault → Text
  | .invalid shown => ("invalid duration " : Text) ++ shown
  | .tooLarge => "int too large to convert to float"

def fault : DurationFault → Fault
  | .invalid shown => Fault.ofValue (DurationFault.invalid shown).message
  | .tooLarge => Fault.plain .overflow DurationFault.tooLarge.message

end DurationFault

namespace Duration

/-- A decimal number with its unit. -/
structure Part where
  number : Text
  unit : TimeUnit
deriving DecidableEq, Repr

section

variable {Found : Type}

/-- Digits at the front of a text, as many as possible so that what comes behind them can be read,
and what is read there. -/
def digitsThen? (next : Text → Option Found) : Text → Option (Text × Found)
  | [] => none
  | point :: rest =>
      if point.isDecimal then
        match digitsThen? next rest with
        | some (digits, found) => some (point :: digits, found)
        | none => (next rest).map fun found => ([point], found)
      else none

/-- A point at the front of a text with what `next` reads behind it. -/
def pointThen? (next : Text → Option (Text × Found)) : Text → Option (Text × Found)
  | [] => none
  | point :: rest =>
      if point = '.' then (next rest).map fun found => (point :: found.1, found.2) else none

/-- What `first` reads at the front of a text, or else nothing, with what is read behind it. -/
def optionalThen? (first : (Text → Option Found) → Text → Option (Text × Found))
    (next : Text → Option Found) (text : Text) : Option (Text × Found) :=
  match first next text with
  | some found => some found
  | none => (next text).map fun found => ([], found)

/-- A point with digits or none behind it, and what is read behind them. -/
def fractionThen? (next : Text → Option Found) : Text → Option (Text × Found) :=
  pointThen? (optionalThen? digitsThen? next)

/-- A number at the front of a text, and what is read behind it: digits with or without a fraction,
or else a point and digits.  The longest number is tried first. -/
def numberThen? (next : Text → Option Found) (text : Text) : Option (Text × Found) :=
  match digitsThen? (optionalThen? fractionThen? next) text with
  | some (whole, fraction, found) => some (whole ++ fraction, found)
  | none => pointThen? (digitsThen? next) text

end

/-- The number and unit at the front of a text and the text behind them. -/
def part? (text : Text) : Option (Part × Text) :=
  (numberThen? TimeUnit.read? text).map fun found =>
    ({ number := found.1, unit := found.2.1 }, found.2.2)

/-- The first part in a text: how many code points are passed over in front of it, the part, and the
text behind it. -/
def find? : Text → Option (Nat × Part × Text)
  | [] => none
  | point :: rest =>
      match part? (point :: rest) with
      | some found => some (0, found)
      | none => (find? rest).map fun found => (found.1 + 1, found.2)

/-- Adds parts to a sum as they are found, until one does not stand directly behind the one before:
the sum, and the text behind the parts.  There is no result if a number cannot be read. -/
def addParts? : Nat → Float → Text → Option (Float × Text)
  | 0, sum, text => some (sum, text)
  | fuel + 1, sum, text =>
      match find? text with
      | some (0, part, rest) =>
          match Reading.float? part.number with
          | some number => addParts? fuel (sum + number * part.unit.seconds) rest
          | none => none
      | _ => some (sum, text)

/-- The seconds that a text names. -/
def ofText? (text : Text) : Option Float :=
  let text := text.strip
  match Reading.float? text with
  | some seconds => some seconds
  | none =>
      match addParts? text.length 0.0 text with
      | some (sum, []) => if text.isEmpty then none else some sum
      | _ => none

/-- The seconds that a value names. -/
def ofDocument (value : Document) : Except DurationFault Float :=
  match value with
  | .integer number =>
      match Binary64.ofInt? number with
      | some seconds => .ok seconds
      | none => .error .tooLarge
  | .float seconds => .ok seconds
  | .text text =>
      match ofText? text with
      | some seconds => .ok seconds
      | none => .error (.invalid value.display)
  | other => .error (.invalid other.display)

end Duration

/-!
## Integers in settings

Settings accept integers in several spellings: with blanks around them, with a sign, with leading
zeros, with single underscores between digits, and with a fraction of zeros.  Among leading zeros
underscores count as zeros, and a minus may follow them.  Truth values and numbers without a fraction
count too.
-/

/-- Why a value is no integer. -/
inductive IntegerRefusal
  | type
  | text
  /-- A text with half of a surrogate pair. -/
  | surrogate
  | tooLong
  | fraction
  | notFinite
deriving DecidableEq, Repr

namespace LenientInteger

/-- Blanks around an integer. -/
def isTrimmed (point : CodePoint) : Bool :=
  (0x09 ≤ point.val && point.val ≤ 0x0D) || point.val = 0x20 || point.val = 0x85 ||
    point.val = 0xA0 || point.val = 0x1680 || (0x2000 ≤ point.val && point.val ≤ 0x200A) ||
    point.val = 0x2028 || point.val = 0x2029 || point.val = 0x202F || point.val = 0x205F ||
    point.val = 0x3000

/-- The largest number of digits that is read. -/
def maxDigits : Nat := 4300

/-- The text behind a sign, and whether the sign is a minus. -/
def splitSign : Text → Bool × Text
  | [] => (false, [])
  | point :: rest =>
      if point = '-' then (true, rest)
      else if point = '+' then (false, rest)
      else (false, point :: rest)

/-- The text behind leading zeros.  Underscores may stand among the zeros; in front of a point the
code point before it stays, and so does the last code point of a text of zeros.  `previous` is the
code point in front. -/
def dropZeros? (previous : CodePoint) : Text → Option Text
  | [] => some [previous]
  | point :: rest =>
      if point = '0' || point = '_' then dropZeros? point rest
      else if point.within '1' '9' || point = '-' then some (point :: rest)
      else if point = '.' then some (previous :: point :: rest)
      else none

/-- The text behind leading zeros, if it begins with a digit. -/
def withoutZeros? : Text → Option Text
  | [] => none
  | point :: rest =>
      if point = '0' then dropZeros? point rest
      else if point.within '1' '9' then some (point :: rest)
      else none

/-- The text in front of a point with one zero or more and nothing else behind it, or the whole
text. -/
def withoutFraction (text : Text) : Text :=
  let whole := text.takeWhile fun point => point ≠ CodePoint.ofChar '.'
  match text.drop whole.length with
  | _ :: first :: fraction =>
      if (first :: fraction).all fun point => point = '0' then whole else text
  | _ => text

/-- The text without single underscores between other code points. -/
def withoutUnderscores (text : Text) : Text :=
  if text.startsWith "_" || text.endsWith "_" || text.containsText "__" then text
  else text.filter fun point => point ≠ CodePoint.ofChar '_'

/-- Whether a text begins with more digits than are read, behind a minus or not.  Leading zeros
count for nothing. -/
def isTooLong (text : Text) : Bool :=
  let unsigned := (Text.dropLead? text "-").getD text
  match unsigned with
  | [] => false
  | point :: _ =>
      point.within '1' '9' && maxDigits < (unsigned.takeWhile CodePoint.isAsciiDigit).length

/-- The number that a text of digits spells behind a minus or none. -/
def ofDigits? (text : Text) : Option Int :=
  let minus := Text.dropLead? text "-"
  let digits := minus.getD text
  if digits.isEmpty || !digits.all CodePoint.isAsciiDigit || maxDigits < digits.length then none
  else some (if minus.isSome then -(digits.digitsValue : Int) else digits.digitsValue)

/-- The integer that a trimmed text spells. -/
def ofTrimmed? (text : Text) : Option Int := do
  let (negative, unsigned) := splitSign text
  let rest ← withoutZeros? unsigned
  let digits := withoutUnderscores (withoutFraction rest)
  ofDigits? (if negative then CodePoint.ofChar '-' :: digits else digits)

/-- The integer that a text spells. -/
def ofText (text : Text) : Except IntegerRefusal Int :=
  let trimmed := text.trim isTrimmed
  if text.any CodePoint.isSurrogate then .error .surrogate
  else if isTooLong trimmed then .error .tooLong
  else
    match ofTrimmed? trimmed with
    | some number => .ok number
    | none => .error .text

/-- The integer that a number is. -/
def ofFloat (number : Float) : Except IntegerRefusal Int :=
  match Binary64.ofFloat number with
  | .nan | .infinite _ => .error .notFinite
  | .finite _ _ _ =>
      match Binary64.exactInt? number with
      | none => .error .fraction
      | some value => if twoTo 63 ≤ value.natAbs then .error .tooLong else .ok value

/-- The integer that a value stands for. -/
def ofDocument : Document → Except IntegerRefusal Int
  | .bool value => .ok (if value then 1 else 0)
  | .integer value => .ok value
  | .float value => ofFloat value
  | .text value => ofText value
  | .bytes value =>
      match Utf8.decode value with
      | .ok text => ofText text
      | .error _ => .error .text
  | _ => .error .type

end LenientInteger

end EventForge
