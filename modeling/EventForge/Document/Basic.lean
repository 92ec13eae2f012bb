import EventForge.Number.ShortestDecimal
import EventForge.Text.Basic
import EventForge.Text.Quoted

/-!
# Documents

A document is a value that a schema source, a setting or a database row can hold.  Mappings keep the
order of their entries.  A list or mapping can contain itself.  Every document has a display form,
used inside collections and in messages, and a plain form, which shows text and dates without quotes
and parentheses.
-/

namespace EventForge

/-!
## Dates and moments

Documents may hold calendar dates and moments of a day, with or without a distance to universal
time. Both are written year first with padded numbers; the constructor form names the parts one by
one.
-/

/-- A calendar date of the years 1 to 9999. -/
structure Date where
  year : Nat
  month : Nat
  day : Nat
deriving DecidableEq, Repr

/-- A moment of a date; `offset` is the distance to universal time in seconds. -/
structure Moment where
  date : Date
  hour : Nat
  minute : Nat
  second : Nat
  microsecond : Nat
  offset : Option Int
deriving DecidableEq, Repr

/-- Which part of a date or moment does not exist. -/
inductive CalendarFault
  | year (number : Nat)
  | month
  | day
  | hour
  | minute
  | second
  | offset (seconds : Int)
deriving DecidableEq, Repr

namespace Calendar

def isLeapYear (year : Nat) : Bool := year % 4 == 0 && (year % 100 != 0 || year % 400 == 0)

def daysInMonth (year month : Nat) : Nat :=
  if month = 2 then if isLeapYear year then 29 else 28
  else if month = 4 || month = 6 || month = 9 || month = 11 then 30
  else 31

/-- The days from the first day of year 1 to a date. -/
def dayNumber (date : Date) : Nat :=
  let before := date.year - 1
  365 * before + before / 4 - before / 100 + before / 400 +
    (List.range (date.month - 1)).foldl (fun days month =>
      days + daysInMonth date.year (month + 1)) 0 +
    (date.day - 1)

/-- Decimal digits with zeros in front up to a width. -/
def padded (width number : Nat) : Text :=
  let digits := Text.ofNat number
  List.replicate (width - digits.length) (0x30 : CodePoint) ++ digits

/-- A span of seconds, normalised to whole days and a rest that is not negative. -/
def spanText (seconds : Int) : Text :=
  let days := Int.fdiv seconds 86400
  let rest := Int.fmod seconds 86400
  let parts : List Text :=
    (if days = 0 then [] else [("days=" : Text) ++ Text.ofInt days]) ++
      (if rest = 0 then [] else [("seconds=" : Text) ++ Text.ofInt rest])
  "datetime.timedelta(" ++ (if parts.isEmpty then ("0" : Text) else Text.join ", " parts) ++ ")"

end Calendar

namespace CalendarFault

def message : CalendarFault → Text
  | .year number => "year " ++ Text.ofNat number ++ " is out of range"
  | .month => "month must be in 1..12"
  | .day => "day is out of range for month"
  | .hour => "hour must be in 0..23"
  | .minute => "minute must be in 0..59"
  | .second => "second must be in 0..59"
  | .offset seconds =>
      "offset must be a timedelta strictly between -timedelta(hours=24) and " ++
        "timedelta(hours=24), not " ++ Calendar.spanText seconds ++ "."

end CalendarFault

namespace Date

/-- The date with the given parts, if it exists. -/
def make (year month day : Nat) : Except CalendarFault Date :=
  if year = 0 || 9999 < year then .error (.year year)
  else if month = 0 || 12 < month then .error .month
  else if day = 0 || Calendar.daysInMonth year month < day then .error .day
  else .ok { year, month, day }

/-- The date as year, month and day. -/
def text (date : Date) : Text :=
  Calendar.padded 4 date.year ++ "-" ++ Calendar.padded 2 date.month ++ "-" ++
    Calendar.padded 2 date.day

/-- The date as a call that builds it. -/
def constructorText (date : Date) : Text :=
  "datetime.date(" ++
    Text.join ", " [Text.ofNat date.year, Text.ofNat date.month, Text.ofNat date.day] ++ ")"

end Date

namespace Moment

/-- The moment with the given parts, if it exists. -/
def make (year month day hour minute second microsecond : Nat) (offset : Option Int) :
    Except CalendarFault Moment := do
  if let some seconds := offset then
    if 86400 ≤ seconds.natAbs then throw (.offset seconds)
  let date ← Date.make year month day
  if 23 < hour then throw .hour
  if 59 < minute then throw .minute
  if 59 < second then throw .second
  return { date, hour, minute, second, microsecond, offset }

/-- The distance to universal time as sign, hours and minutes. -/
def offsetText (seconds : Int) : Text :=
  let size := seconds.natAbs
  (if seconds < 0 then ("-" : Text) else "+") ++ Calendar.padded 2 (size / 3600) ++ ":" ++
    Calendar.padded 2 (size / 60 % 60) ++
    (if size % 60 = 0 then [] else (":" : Text) ++ Calendar.padded 2 (size % 60))

/-- The moment as date, time of day and distance to universal time. -/
def text (moment : Moment) : Text :=
  moment.date.text ++ " " ++ Calendar.padded 2 moment.hour ++ ":" ++
    Calendar.padded 2 moment.minute ++ ":" ++ Calendar.padded 2 moment.second ++
    (if moment.microsecond = 0 then [] else ("." : Text) ++ Calendar.padded 6 moment.microsecond) ++
    ((moment.offset.map offsetText).getD [])

/-- The distance to universal time as part of the constructor form. -/
def zoneText : Option Int → Text
  | none => []
  | some 0 => ", tzinfo=datetime.timezone.utc"
  | some seconds =>
      ", tzinfo=datetime.timezone(" ++ Calendar.spanText seconds ++ ")"

/-- The moment as a call that builds it; trailing zeros of the time of day are left out. -/
def constructorText (moment : Moment) : Text :=
  let finer :=
    if moment.microsecond ≠ 0 then [moment.second, moment.microsecond]
    else if moment.second ≠ 0 then [moment.second]
    else []
  let parts :=
    [moment.date.year, moment.date.month, moment.date.day, moment.hour, moment.minute] ++ finer
  "datetime.datetime(" ++ Text.join ", " (parts.map Text.ofNat) ++
    zoneText moment.offset ++ ")"

/-- The microseconds since the beginning of year 1 in universal time, or in local time for a moment
without a distance to it. -/
def instant (moment : Moment) : Int :=
  let seconds : Int :=
    Calendar.dayNumber moment.date * 86400 + moment.hour * 3600 + moment.minute * 60 +
      moment.second
  (seconds - moment.offset.getD 0) * 1000000 + moment.microsecond

/-- Two moments are the same if both have a distance to universal time and name the same instant, or
neither has one and they name the same local time. -/
def same (first second : Moment) : Bool :=
  first.offset.isSome == second.offset.isSome && first.instant == second.instant

end Moment

/-!
## Values
-/

/-- A decoded value. -/
inductive Document
  | null
  | bool (value : Bool)
  | integer (value : Int)
  | float (value : Float)
  | text (value : Text)
  | bytes (value : Bytes)
  | date (value : Date)
  | moment (value : Moment)
  | list (items : List Document)
  | tuple (items : List Document)
  | set (items : List Document)
  | mapping (entries : List (Document × Document))
  /-- A list or mapping with a label; inside its body `again` with this label stands for it. -/
  | knot (label : Nat) (body : Document)
  /-- The list or mapping with a label around this place. -/
  | again (label : Nat) (isList : Bool)
deriving Repr, Inhabited

namespace Document

/-- The name of the kind of a document. -/
def kindName : Document → Text
  | .null => "NoneType"
  | .bool _ => "bool"
  | .integer _ => "int"
  | .float _ => "float"
  | .text _ => "str"
  | .bytes _ => "bytes"
  | .date _ => "datetime.date"
  | .moment _ => "datetime.datetime"
  | .list _ | .again _ true => "list"
  | .tuple _ => "tuple"
  | .set _ => "set"
  | .mapping _ | .again _ false => "dict"
  | .knot _ body => body.kindName

/-- A list or mapping inside itself. -/
def ellipsis (isList : Bool) : Text := if isList then "[...]" else "\x7b...\x7d"

/-- Whether a document is a list. -/
def isList : Document → Bool
  | .list _ => true
  | _ => false

mutual

/-- The display form below the lists and mappings with the given labels, which are not shown
again. -/
def displayBelow (labels : List Nat) : Document → Text
  | .null => "None"
  | .bool value => if value then "True" else "False"
  | .integer value => Text.ofInt value
  | .float value => ShortestDecimal.text value
  | .text value => Quoted.ofText value
  | .bytes value => Quoted.ofBytes value
  | .date value => value.constructorText
  | .moment value => value.constructorText
  | .list items => "[" ++ Text.join ", " (displayItems labels items) ++ "]"
  | .tuple [item] => "(" ++ displayBelow labels item ++ ",)"
  | .tuple items => "(" ++ Text.join ", " (displayItems labels items) ++ ")"
  | .set [] => "set()"
  | .set items => "\x7b" ++ Text.join ", " (displayItems labels items) ++ "\x7d"
  | .mapping entries => "\x7b" ++ Text.join ", " (displayEntries labels entries) ++ "\x7d"
  | .knot label body =>
      if labels.contains label then ellipsis body.isList else displayBelow (label :: labels) body
  | .again _ isList => ellipsis isList

def displayItems (labels : List Nat) : List Document → List Text
  | [] => []
  | item :: items => displayBelow labels item :: displayItems labels items

def displayEntries (labels : List Nat) : List (Document × Document) → List Text
  | [] => []
  | entry :: entries =>
      (displayBelow labels entry.1 ++ ": " ++ displayBelow labels entry.2) ::
        displayEntries labels entries

end

/-- The form of a document inside collections and messages. -/
def display (document : Document) : Text := document.displayBelow []

mutual

/-- Puts a document for what has a label. -/
def bind (label : Nat) (whole : Document) : Document → Document
  | .again other isList => if other = label then whole else .again other isList
  | .knot other body => .knot other (if other = label then body else bind label whole body)
  | .list items => .list (bindItems label whole items)
  | .tuple items => .tuple (bindItems label whole items)
  | .mapping entries => .mapping (bindEntries label whole entries)
  | other => other

def bindItems (label : Nat) (whole : Document) : List Document → List Document
  | [] => []
  | item :: items => bind label whole item :: bindItems label whole items

def bindEntries (label : Nat) (whole : Document) :
    List (Document × Document) → List (Document × Document)
  | [] => []
  | entry :: entries =>
      (bind label whole entry.1, bind label whole entry.2) :: bindEntries label whole entries

end

/-- A document whose parts are documents of their own. -/
def opened : Document → Document
  | .knot label body => bind label (.knot label body) body
  | document => document

mutual

/-- Whether some number of the document satisfies a condition. -/
def anyInteger (condition : Int → Bool) : Document → Bool
  | .integer value => condition value
  | .list items | .tuple items | .set items => anyIntegerIn condition items
  | .mapping entries => anyIntegerAmong condition entries
  | .knot _ body => anyInteger condition body
  | _ => false

def anyIntegerIn (condition : Int → Bool) : List Document → Bool
  | [] => false
  | item :: items => anyInteger condition item || anyIntegerIn condition items

def anyIntegerAmong (condition : Int → Bool) : List (Document × Document) → Bool
  | [] => false
  | entry :: entries =>
      anyInteger condition entry.1 || anyInteger condition entry.2 ||
        anyIntegerAmong condition entries

end

/-- Whether a document has a display form: integers of more digits than can be read have none. -/
def isDisplayable (document : Document) : Bool :=
  !document.anyInteger fun value => tenTo 4300 ≤ value.natAbs

mutual

/-- Whether some part of a document contains itself. -/
def isEndless : Document → Bool
  | .again _ _ => true
  | .knot _ body => isEndless body
  | .list items | .tuple items => isEndlessIn items
  | .mapping entries => isEndlessAmong entries
  | _ => false

def isEndlessIn : List Document → Bool
  | [] => false
  | item :: items => isEndless item || isEndlessIn items

def isEndlessAmong : List (Document × Document) → Bool
  | [] => false
  | entry :: entries => isEndless entry.1 || isEndless entry.2 || isEndlessAmong entries

end

/-- The form of a document on its own. -/
def plain : Document → Text
  | .text value => value
  | .date value => value.text
  | .moment value => value.text
  | document => document.display

/-- The refusal to display an integer of too many digits. -/
structure DisplayFault where
deriving DecidableEq, Repr

def DisplayFault.message : Text :=
  ("Exceeds the limit (4300 digits) for integer string conversion; " : Text) ++
    "use sys.set_int_max_str_digits() to increase the limit"

/-- The display form of a document, if it has one. -/
def display? (document : Document) : Except DisplayFault Text :=
  if document.isDisplayable then .ok document.display else .error {}

/-- The plain form of a document, if it has one. -/
def plain? (document : Document) : Except DisplayFault Text :=
  if document.isDisplayable then .ok document.plain else .error {}

/-- The ratio that a number is, if it is a number and finite. -/
def ratio? : Document → Option (Int × Nat)
  | .bool value => some (if value then 1 else 0, 1)
  | .integer value => some (value, 1)
  | .float value =>
      match Binary64.ofFloat value with
      | .finite negative significand exponent =>
          some (Binary64.ratio negative significand exponent)
      | _ => none
  | _ => none

/-- Whether two documents are the same key of a mapping.  Numbers are the same key if they are
equal, whatever their kind. -/
def sameKey (first second : Document) : Bool :=
  match first.ratio?, second.ratio? with
  | some (firstTop, firstBottom), some (secondTop, secondBottom) =>
      firstTop * secondBottom == secondTop * firstBottom
  | some _, none => false
  | none, some _ => false
  | none, none =>
      match first, second with
      | .null, .null => true
      | .float first, .float second => first == second
      | .text first, .text second => first == second
      | .bytes first, .bytes second => first == second
      | .date first, .date second => first == second
      | .moment first, .moment second => first.same second
      | _, _ => false

/-- Whether a document can be a key: lists, sets and mappings cannot. -/
def isKey : Document → Bool
  | .list _ | .set _ | .mapping _ | .knot _ _ => false
  | _ => true

/-- Adds an entry to a mapping.  A key that is there already keeps its place and gets the new
value. -/
def insertEntry (key value : Document) : List (Document × Document) → List (Document × Document)
  | [] => [(key, value)]
  | entry :: entries =>
      if sameKey entry.1 key then (entry.1, value) :: entries
      else entry :: insertEntry key value entries

/-- The value under a text key. -/
def lookup? (key : Text) (entries : List (Document × Document)) : Option Document :=
  (entries.find? fun entry =>
    match entry.1 with
    | Document.text content => content == key
    | _ => false).map (·.2)

end Document

/-- Entries under text keys, in order, each key once. -/
abbrev Fields (Value : Type) := List (Text × Value)

namespace Fields

/-- Adds a field; a key that is there already keeps its place and gets the new value. -/
def insert {Value : Type} (key : Text) (value : Value) : Fields Value → Fields Value
  | [] => [(key, value)]
  | field :: fields =>
      if field.1 = key then (field.1, value) :: fields else field :: insert key value fields

/-- The value under a key. -/
def get? {Value : Type} (fields : Fields Value) (key : Text) : Option Value :=
  (fields.find? fun field => field.1 == key).map (·.2)

end Fields

end EventForge
