import EventForge.Document.Basic
import EventForge.Text.Basic
import EventForge.Text.Case
import EventForge.Yaml.Token

/-!
# Scalars

Tags, texts of dates and times, and the values of scalars.
-/

namespace EventForge

/-!
## Tags of YAML nodes

A tag says what a node means.  A scalar without quotes and without a tag of its own gets the tag of
the first form that its text has: a truth value, a decimal number, an integer, the merge key, null,
a moment, the default key.  Every other scalar is a string.
-/

namespace Yaml

inductive Tag
  | null
  | truth
  | integer
  | decimal
  | binary
  | moment
  | orderedMap
  | pairs
  | set
  | string
  | list
  | map
  | merge
  | value
  | other
deriving DecidableEq, Repr

namespace Tag

/-- What the addresses of the standard tags begin with. -/
def standardLead : Text := "tag:yaml.org,2002:"

/-- The standard tags by the end of their addresses. -/
def standardNames : List (Text × Tag) :=
  [("null", .null), ("bool", .truth), ("int", .integer), ("float", .decimal),
    ("binary", .binary), ("timestamp", .moment), ("omap", .orderedMap), ("pairs", .pairs),
    ("set", .set), ("str", .string), ("seq", .list), ("map", .map), ("merge", .merge),
    ("value", .value)]

/-- The tag with an address. -/
def ofAddress (address : Text) : Tag :=
  match Text.dropLead? address standardLead with
  | none => .other
  | some name =>
      match standardNames.find? fun entry => entry.1 == name with
      | some entry => entry.2
      | none => .other

end Tag

namespace Form

def isDigit (point : CodePoint) : Bool := point.isAsciiDigit

def isDigitOrUnderscore (point : CodePoint) : Bool := point.isAsciiDigit || point = '_'

/-- The text without a leading sign. -/
def dropSign : Text → Text
  | [] => []
  | point :: rest => if point = '+' || point = '-' then rest else point :: rest

def truthWords : List String :=
  ["yes", "Yes", "YES", "no", "No", "NO", "true", "True", "TRUE", "false", "False", "FALSE",
    "on", "On", "ON", "off", "Off", "OFF"]

def isTruth (text : Text) : Bool := truthWords.any fun word => Text.ofString word == text

def isNull (text : Text) : Bool :=
  ["", "~", "null", "Null", "NULL"].any fun word => Text.ofString word == text

/-- Nothing, or an exponent with a sign. -/
def isExponentOrEmpty : Text → Bool
  | [] => true
  | letter :: sign :: digits =>
      (letter = 'e' || letter = 'E') && (sign = '+' || sign = '-') && !digits.isEmpty &&
        digits.all isDigit
  | _ => false

/-- A sexagesimal digit of one or two decimal digits. -/
def isSexagesimalDigit : Text → Bool
  | [one] => isDigit one
  | [ten, one] => ten.within '0' '5' && isDigit one
  | _ => false

/-- Sexagesimal digits with a colon in front of each. -/
def areSexagesimalDigits (text : Text) : Bool :=
  match Text.splitAt ':' text with
  | [] :: first :: others => (first :: others).all isSexagesimalDigit
  | _ => false

/-- Digits, a point, digits and perhaps an exponent. -/
def isPointed (text : Text) : Bool :=
  match dropSign text with
  | [] => false
  | first :: rest =>
      isDigit first &&
        match rest.dropWhile isDigitOrUnderscore with
        | [] => false
        | point :: rest => point = '.' && isExponentOrEmpty (rest.dropWhile isDigitOrUnderscore)

/-- A point, digits and perhaps an exponent, without a sign. -/
def isFraction : Text → Bool
  | point :: first :: rest =>
      point = '.' && isDigit first && isExponentOrEmpty (rest.dropWhile isDigitOrUnderscore)
  | _ => false

/-- Sexagesimal digits, a point and digits. -/
def isSexagesimalDecimal (text : Text) : Bool :=
  match dropSign text with
  | [] => false
  | first :: rest =>
      let body := rest.dropWhile isDigitOrUnderscore
      let whole := body.takeWhile fun point => point ≠ CodePoint.ofChar '.'
      isDigit first && areSexagesimalDigits whole &&
        match body.drop whole.length with
        | [] => false
        | _ :: fraction => fraction.all isDigitOrUnderscore

def isInfinity (text : Text) : Bool :=
  [".inf", ".Inf", ".INF"].any fun word => Text.ofString word == dropSign text

def isNotANumber (text : Text) : Bool :=
  [".nan", ".NaN", ".NAN"].any fun word => Text.ofString word == text

def isDecimal (text : Text) : Bool :=
  isPointed text || isFraction text || isSexagesimalDecimal text || isInfinity text ||
    isNotANumber text

/-- Integers in base two, eight, ten, sixteen and sixty. -/
def isInteger (text : Text) : Bool :=
  match dropSign text with
  | [] => false
  | first :: rest =>
      if first = '0' then
        match rest with
        | [] => true
        | mark :: digits =>
            (mark = 'b' && !digits.isEmpty && digits.all fun point =>
              point = '0' || point = '1' || point = '_') ||
              (mark = 'x' && !digits.isEmpty && digits.all fun point =>
                point.hexValue?.isSome || point = '_') ||
              (mark :: digits).all fun point => point.within '0' '7' || point = '_'
      else
        isDigit first &&
          match rest.dropWhile isDigitOrUnderscore with
          | [] => true
          | colon :: rest => areSexagesimalDigits (colon :: rest)

end Form

end Yaml

/-!
## Moments in YAML

A date is a year of four digits, a month and a day.  A moment adds, behind a `T` or blanks, hour,
minute and second, perhaps a fraction of a second, and perhaps a distance to universal time.
-/

namespace Yaml

/-- The parts of the text of a moment. -/
structure MomentParts where
  year : Text
  month : Text
  day : Text
  /-- Hour, minute and second. -/
  time : Option (Text × Text × Text)
  fraction : Text
  /-- Whether universal time is west of it, hours and minutes; `none` in the pair for `Z`. -/
  zone : Option (Option (Bool × Text × Text))

namespace MomentParts

/-- Between `least` and `most` digits at the front of a text, as many as there are. -/
def digits? (least most : Nat) (text : Text) : Option (Text × Text) :=
  let found := (text.take most).takeWhile CodePoint.isAsciiDigit
  if least ≤ found.length then some (found, text.drop found.length) else none

/-- The text behind a leading code point. -/
def after? (point : CodePoint) : Text → Option Text
  | [] => none
  | first :: rest => if first = point then some rest else none

def isBlankMark (point : CodePoint) : Bool := point = ' ' || point = '\t'

/-- The distance to universal time that fills a text; blanks may stand in front of it. -/
def zone? (text : Text) : Option (Option (Option (Bool × Text × Text))) :=
  if text.isEmpty then some none
  else
    match text.dropWhile isBlankMark with
    | [] => none
    | mark :: rest =>
        if mark = 'Z' then if rest.isEmpty then some (some none) else none
        else if mark = '+' || mark = '-' then do
          let (hours, rest) ← digits? 1 2 rest
          if rest.isEmpty then some (some (some (mark = '-', hours, [])))
          else do
            let rest ← after? ':' rest
            let (minutes, rest) ← digits? 2 2 rest
            if rest.isEmpty then some (some (some (mark = '-', hours, minutes))) else none
        else none

/-- The time of day that fills a text, with what belongs to it. -/
def withTime? (parts : MomentParts) (text : Text) : Option MomentParts := do
  let (hour, rest) ← digits? 1 2 text
  let rest ← after? ':' rest
  let (minute, rest) ← digits? 2 2 rest
  let rest ← after? ':' rest
  let (second, rest) ← digits? 2 2 rest
  let (fraction, rest) :=
    match after? '.' rest with
    | some rest =>
        (rest.takeWhile CodePoint.isAsciiDigit, rest.dropWhile CodePoint.isAsciiDigit)
    | none => ([], rest)
  let zone ← zone? rest
  return { parts with time := some (hour, minute, second), fraction, zone }

/-- The parts of the text of a date or moment. -/
def ofText? (text : Text) : Option MomentParts := do
  let (year, rest) ← digits? 4 4 text
  let rest ← after? '-' rest
  let (month, rest) ← digits? 1 2 rest
  let rest ← after? '-' rest
  let (day, rest) ← digits? 1 2 rest
  let parts : MomentParts := { year, month, day, time := none, fraction := [], zone := none }
  match rest with
  | [] => return parts
  | mark :: rest =>
      if mark = 'T' || mark = 't' then parts.withTime? rest
      else if isBlankMark mark then parts.withTime? (rest.dropWhile isBlankMark)
      else none

/-- Whether a scalar without a tag is taken for a date or moment: a date alone has two digits for
month and day. -/
def isPlain (text : Text) : Bool :=
  match ofText? text with
  | none => false
  | some parts => parts.time.isSome || (parts.month.length = 2 && parts.day.length = 2)

/-- The first six digits of a fraction, as microseconds. -/
def microseconds (fraction : Text) : Nat :=
  Text.digitsValue (fraction.take 6 ++ List.replicate (6 - fraction.length) (0x30 : CodePoint))

/-- Seconds east of universal time. -/
def offset? (parts : MomentParts) : Option Int :=
  parts.zone.map fun zone =>
    match zone with
    | none => 0
    | some (west, hours, minutes) =>
        let seconds : Int := hours.digitsValue * 3600 + minutes.digitsValue * 60
        if west then -seconds else seconds

end MomentParts

end Yaml

/-!
## Values of YAML scalars

Every tag reads the text of a scalar in its own way.  A text that has another form than its tag asks
for is refused.
-/

namespace Yaml

namespace Scalar

def withoutUnderscores (text : Text) : Text := text.filter fun point => point ≠ CodePoint.ofChar '_'

/-- The sign of a number and the text behind it; an empty text has no sign. -/
def signed (text : Text) : Bool × Text :=
  match text with
  | [] => (false, [])
  | point :: rest =>
      if point = '-' then (true, rest)
      else if point = '+' then (false, rest)
      else (false, point :: rest)

/-- A part of an integer in a base. -/
def part (base : Nat) (text : Text) : Except YamlFault Int :=
  (Reading.integer base text).mapError (YamlFault.integer base text)

/-- A sequence of sexagesimal digits, most significant first. -/
def sexagesimal (digits : List Int) : Int :=
  digits.foldl (fun number digit => number * 60 + digit) 0

/-- An integer without its sign. -/
def magnitude (text : Text) : Except YamlFault Int :=
  match text with
  | [] => .error .emptyNumber
  | first :: _ =>
      if text = ("0" : Text) then .ok 0
      else if text.startsWith "0b" then part 2 (text.drop 2)
      else if text.startsWith "0x" then part 16 (text.drop 2)
      else if first = '0' then part 8 text
      else if text.contains (CodePoint.ofChar ':') then do
        let digits ← (text.splitAt ':').mapM (part 10)
        return sexagesimal digits
      else part 10 text

def integer (text : Text) : Except YamlFault Int := do
  let text := withoutUnderscores text
  if text.isEmpty then throw .emptyNumber
  let (negative, text) := signed text
  let size ← magnitude text
  return if negative then -size else size

/-- A part of a decimal number. -/
def decimalPart (text : Text) : Except YamlFault Float :=
  match Reading.float? text with
  | some number => .ok number
  | none => .error (.decimal text)

/-- The sum of sexagesimal digits, least significant first, from the place with the given value. -/
def sexagesimalSum (sum : Float) (place : Nat) : List Float → Except YamlFault Float
  | [] => .ok sum
  | digit :: digits =>
      match Binary64.ofInt? place with
      | none => .error .placeValue
      | some weight => sexagesimalSum (sum + digit * weight) (place * 60) digits

def decimal (text : Text) : Except YamlFault Float := do
  let text := (withoutUnderscores text).lower
  if text.isEmpty then throw .emptyNumber
  let (negative, text) := signed text
  let size ←
    if text = (".inf" : Text) then pure (1.0 / 0.0)
    else if text = (".nan" : Text) then pure (0.0 / 0.0)
    else if text.contains (CodePoint.ofChar ':') then do
      let digits ← (text.splitAt ':').mapM decimalPart
      sexagesimalSum 0.0 1 digits.reverse
    else decimalPart text
  return if negative then -size else size

/-- Whether a decimal number is written with the word for what is not a number. -/
def isNaNWord (text : Text) : Bool :=
  (signed (withoutUnderscores text).lower).2 = (".nan" : Text)

def truthValues : List (Text × Bool) :=
  [("yes", true), ("no", false), ("true", true), ("false", false), ("on", true), ("off", false)]

def truth (text : Text) : Except YamlFault Bool :=
  match truthValues.find? fun entry => entry.1 == text.lower with
  | some entry => .ok entry.2
  | none => .error (.truth text.lower)

/-- A date or moment. -/
def moment (text : Text) : Except YamlFault Document :=
  let text :=
    if text.getLast? = some CodePoint.lineFeed then text.dropLast else text
  match MomentParts.ofText? text with
  | none => .error .noMoment
  | some parts =>
      let year := parts.year.digitsValue
      let month := parts.month.digitsValue
      let day := parts.day.digitsValue
      match parts.time with
      | none => ((Date.make year month day).map Document.date).mapError YamlFault.calendar
      | some (hour, minute, second) =>
          ((Moment.make year month day hour.digitsValue minute.digitsValue
            second.digitsValue (MomentParts.microseconds parts.fraction)
            parts.offset?).map Document.moment).mapError YamlFault.calendar

/-- The six bits that a point of base64 stands for. -/
def sixBits? (point : CodePoint) : Option Nat :=
  if point.isAsciiUpper then some (point.val - 65)
  else if point.isAsciiLower then some (point.val - 71)
  else if point.isAsciiDigit then some (point.val + 4)
  else if point = '+' then some 62
  else if point = '/' then some 63
  else none

/-- Bytes from base64.  `filled` counts the points of the present group of four, `left` holds the
bits that do not fill a byte yet, and `pads` the marks of padding in a row.  Points that stand for
nothing are skipped, and a full padding ends the data. -/
def base64From (filled left pads : Nat) : Text → Option Bytes
  | [] => if filled = 0 then some [] else none
  | point :: rest =>
      if point = '=' then
        if 2 ≤ filled then
          if 4 ≤ filled + pads + 1 then some [] else base64From filled left (pads + 1) rest
        else base64From filled left pads rest
      else
        match sixBits? point with
        | none => base64From filled left pads rest
        | some bits =>
            let full := left * 64 + bits
            match filled with
            | 0 => base64From 1 bits 0 rest
            | 1 => (base64From 2 (full % 16) 0 rest).map ((full / 16).toUInt8 :: ·)
            | 2 => (base64From 3 (full % 4) 0 rest).map ((full / 4).toUInt8 :: ·)
            | _ => (base64From 0 0 0 rest).map (full.toUInt8 :: ·)

def binary (text : Text) : Except YamlFault Bytes :=
  if text.all fun point => point.val < 128 then
    match base64From 0 0 0 text with
    | some bytes => .ok bytes
    | none => malformed
  else malformed

/-- The value of a scalar text under a tag. -/
def value (tag : Tag) (text : Text) : Except YamlFault Document :=
  match tag with
  | .null => .ok .null
  | .truth => (truth text).map .bool
  | .integer => (integer text).map .integer
  | .decimal => (decimal text).map .float
  | .binary => (binary text).map .bytes
  | .moment => moment text
  | .string => .ok (.text text)
  | _ => malformed

end Scalar

end Yaml

end EventForge
