import EventForge.Sql.Format

/-!
# Moments of the database

A moment is counted in thousandths of a second from noon of the first Julian day.  It is written as a
date, as a time of day, or as a number, and modifiers move it: by spans of time, to the start of a
month or to a day of the week.  The calendar is the one in use today, at all times; local time is
universal time.
-/

namespace EventForge

/-- What is known of a moment.  Its parts follow from one another, and are found when they are
needed. -/
structure SqlMoment where
  /-- Thousandths of a second from noon of the first Julian day. -/
  instant : Option Int := none
  /-- Year, month and day. -/
  date : Option (Int × Int × Int) := none
  /-- Hour, minute and seconds. -/
  clock : Option (Int × Int × Float) := none
  /-- The minutes by which the clock is ahead of universal time. -/
  zone : Option Int := none
  /-- Whether a zone was written. -/
  zoned : Bool := false
  /-- The number that the moment was written as, until it is known what it counts. -/
  number : Option Float := none
  /-- Whether the moment lies outside of the calendar. -/
  failed : Bool := false

/-- Why a moment is not known. -/
inductive MomentFault
  /-- It is not written as one, or does not exist. -/
  | missing
  /-- It depends on when it is asked for. -/
  | present
deriving DecidableEq, Repr

namespace SqlMoment

def millisecondsOfDay : Int := 86400000

/-- The start of the year 1970. -/
def epoch : Int := 210866760000000

/-- The last moment that exists. -/
def last : Int := 464269060799999

/-- The integer part of a number. -/
def whole (value : Float) : Int := (Cell.toInteger? (.real value)).getD 0

def outside : SqlMoment := { failed := true }

/-- The moment without its parts. -/
def bare (moment : SqlMoment) : SqlMoment := { moment with date := none, clock := none, zone := none }

/-- Thousandths of a second up to noon of a date. -/
def noonOf (year month day : Int) : Int :=
  let (year, month) := if month ≤ 2 then (year - 1, month + 12) else (year, month)
  let centuries := Int.tdiv year 100
  let leap := 2 - centuries + Int.tdiv centuries 4
  let days := Int.tdiv (36525 * (year + 4716)) 100 + Int.tdiv (306001 * (month + 1)) 10000 + day + leap
  days * millisecondsOfDay - 1524 * millisecondsOfDay - 43200000

/-- The moment with its instant.  Without a date it is in the year 2000. -/
def located (moment : SqlMoment) : SqlMoment :=
  if moment.instant.isSome then moment
  else
    let (year, month, day) := moment.date.getD (2000, 1, 1)
    if year < -4713 || 9999 < year || moment.number.isSome then outside
    else
      let noon := noonOf year month day
      match moment.clock with
      | none => { moment with instant := some noon }
      | some (hour, minute, second) =>
          let instant := noon + hour * 3600000 + minute * 60000 +
            whole (second * 1000 + Binary64.nearest false 1 2)
          match moment.zone with
          | none => { moment with instant := some instant }
          | some zone => { moment.bare with instant := some (instant - zone * 60000) }

/-- The date of an instant. -/
def dateOf (instant : Int) : Int × Int × Int :=
  let day := Int.tdiv (instant + 43200000) millisecondsOfDay
  let century := Int.tdiv (4 * day - 7468865) 146097
  let shifted := day + 1 + century - Int.tdiv century 4 + 1524
  let year := Int.tdiv (20 * shifted - 2442) 7305
  let start := Int.tdiv (36525 * Int.emod year 32768) 100
  let month := Int.tdiv ((shifted - start) * 10000) 306001
  let date := shifted - start - Int.tdiv (306001 * month) 10000
  let number := if month < 14 then month - 1 else month - 13
  (if 2 < number then year - 4716 else year - 4715, number, date)

/-- The moment with its date. -/
def dated (moment : SqlMoment) : SqlMoment :=
  if moment.date.isSome then moment
  else
    match moment.instant with
    | none => { moment with date := some (2000, 1, 1) }
    | some instant =>
        if instant < 0 || last < instant then { outside with date := some (0, 0, 0) }
        else { moment with date := some (dateOf instant) }

/-- The time of day of an instant. -/
def clockOf (instant : Int) : Int × Int × Float :=
  let rest := (Int.tmod (instant + 43200000) millisecondsOfDay).toNat
  let seconds := rest / 1000
  let part := Binary64.nearest false rest 1000 - Float.ofNat seconds
  ((seconds / 3600 : Nat), (seconds % 3600 / 60 : Nat), part + Float.ofNat (seconds % 60))

/-- The moment with its time of day. -/
def timed (moment : SqlMoment) : SqlMoment :=
  if moment.clock.isSome then moment
  else
    let moment := moment.located
    { moment with clock := some (clockOf (moment.instant.getD 0)), number := none }

/-- The moment with its date and its time of day. -/
def complete (moment : SqlMoment) : SqlMoment := moment.dated.timed

/-! ### Reading -/

/-- A number with so many digits in a range, and the text behind it. -/
def takeNumber (count low high : Nat) (text : Text) : Option (Nat × Text) :=
  let digits := text.take count
  let number := Text.digitsValue digits
  if digits.length = count && digits.all CodePoint.isAsciiDigit && low ≤ number && number ≤ high then
    some (number, text.drop count)
  else none

/-- Hours and minutes with a colon between them. -/
def takeHours (mostHours : Nat) (text : Text) : Option (Nat × Nat × Text) := do
  let (hour, rest) ← takeNumber 2 0 mostHours text
  let rest ← rest.dropLead? ":"
  let (minute, rest) ← takeNumber 2 0 59 rest
  return (hour, minute, rest)

/-- A zone up to the end of a text: the minutes ahead of universal time, and whether one is written.
-/
def readZone (text : Text) : Option (Int × Bool) :=
  match text.dropWhile NumberText.isSpace with
  | [] => some (0, false)
  | sign :: rest =>
      let ended (zone : Int) (rest : Text) : Option (Int × Bool) :=
        if rest.all NumberText.isSpace then some (zone, true) else none
      if sign = 'Z' || sign = 'z' then ended 0 rest
      else if sign = '-' || sign = '+' then
        match takeHours 14 rest with
        | some (hour, minute, rest) =>
            let zone : Int := minute + hour * 60
            ended (if sign = '-' then -zone else zone) rest
        | none => none
      else none

/-- Seconds with a fraction behind a colon, if there are any, and the text behind them. -/
def takeSeconds (text : Text) : Option (Float × Text) :=
  match text.dropLead? ":" with
  | none => some (0, text)
  | some rest => do
      let (second, rest) ← takeNumber 2 0 59 rest
      let whole := Float.ofNat second
      match rest.dropLead? "." with
      | none => return (whole, rest)
      | some behind =>
          let digits := behind.takeWhile CodePoint.isAsciiDigit
          if digits.isEmpty then return (whole, rest)
          let (part, scale) : Float × Float := digits.foldl (fun found digit =>
            (found.1 * 10 + Float.ofNat (digit.val - 48), found.2 * 10)) (0, 1)
          return (whole + part / scale, behind.drop digits.length)

/-- A time of day. -/
def readClock (text : Text) : Option SqlMoment := do
  let (hour, minute, rest) ← takeHours 24 text
  let (second, rest) ← takeSeconds rest
  let (zone, zoned) ← readZone rest
  return { clock := some (hour, minute, second), zone := if zone = 0 then none else some zone, zoned }

/-- A date, perhaps with a time of day. -/
def readDate (text : Text) : Option SqlMoment := do
  let (negative, unsigned) : Bool × Text :=
    match text.dropLead? "-" with
    | some rest => (true, rest)
    | none => (false, text)
  let (year, rest) ← takeNumber 4 0 14712 unsigned
  let rest ← rest.dropLead? "-"
  let (month, rest) ← takeNumber 2 1 12 rest
  let rest ← rest.dropLead? "-"
  let (day, rest) ← takeNumber 2 1 31 rest
  let rest := rest.dropWhile fun point => NumberText.isSpace point || point = CodePoint.ofChar 'T'
  let clock : SqlMoment ← if rest.isEmpty then some {} else readClock rest
  let moment : SqlMoment :=
    { clock with date := some (if negative then -(year : Int) else year, month, day) }
  return if moment.zone.isSome then moment.located else moment

/-- The number that a text wholly is. -/
def number? (text : Text) : Option Float :=
  let found := NumberText.ofText text
  if found.isWhole then some found.real else none

/-- A moment that is written as a number: a Julian day, if there is such a day. -/
def ofNumber (number : Float) : SqlMoment :=
  let isDay := 0 ≤ number && number < Binary64.nearest false 53734845 10
  { number := some number
    instant :=
      if isDay then some (whole (number * 86400000 + Binary64.nearest false 1 2)) else none }

/-- The moment that a value is written as. -/
def ofCell (presentAllowed : Bool) (cell : Cell) : Except MomentFault SqlMoment :=
  match cell with
  | .integer value => .ok (ofNumber (Cell.realOf value))
  | .real value => .ok (ofNumber value)
  | other =>
      match other.toText?.map FormatDirective.beforeNul with
      | none => .error .missing
      | some text =>
          match readDate text, readClock text with
          | some moment, _ | none, some moment => .ok moment
          | none, none =>
              if text.toAsciiLower = ("now" : Text) then
                if presentAllowed then .ok { instant := some epoch } else .error .present
              else
                match number? text with
                | some number => .ok (ofNumber number)
                | none => .error .missing

/-! ### Modifiers -/

/-- A number of seconds as a moment. -/
def ofSeconds (number : Float) : SqlMoment :=
  { instant := some (whole (number * 1000 + Float.ofNat 210866760000000 +
      Binary64.nearest false 1 2)) }

/-- What a number counts by itself: days, or else seconds. -/
def settled (moment : SqlMoment) : SqlMoment :=
  match moment.number with
  | none => moment
  | some number =>
      if moment.instant.isSome then { moment with number := none }
      else if -(Float.ofNat 210866760000) ≤ number && number ≤ Float.ofNat 253402300799 then
        ofSeconds number
      else moment

/-- The start of the day, the month or the year. -/
def startOf (part : Text) (moment : SqlMoment) : Option SqlMoment :=
  if moment.instant.isNone && moment.date.isNone && moment.clock.isNone then none
  else
    let moment := moment.dated
    let (year, month, day) := moment.date.getD (2000, 1, 1)
    let start (date : Int × Int × Int) : Option SqlMoment :=
      some { moment with
        date := some date, clock := some (0, 0, 0), number := none, zone := none, instant := none }
    match part.toAsciiLower.toString with
    | "month" => start (year, month, 1)
    | "year" => start (year, 1, 1)
    | "day" => start (year, month, day)
    | _ => none

/-- The next day that is a given one of the week; Sunday is the first. -/
def onWeekday (day : Int) (moment : SqlMoment) : SqlMoment :=
  let moment := { moment.complete with zone := none, instant := none }.located
  let instant := moment.instant.getD 0
  let present := Int.tmod (Int.tdiv (instant + 129600000) millisecondsOfDay) 7
  let present := if day < present then present - 7 else present
  { moment.bare with instant := some (instant + (day - present) * millisecondsOfDay) }

/-- A unit of time, with the numbers of it that can be added, and its seconds. -/
def units : List (String × Nat × Nat) := [
  ("second", 464269049856, 1), ("minute", 7737817600, 60), ("hour", 128963632, 3600),
  ("day", 5373485, 86400), ("month", 176546, 2592000), ("year", 14713, 31536000)]

/-- The moment some months later. -/
def addMonths (months : Int) (moment : SqlMoment) : SqlMoment :=
  let moment := moment.complete
  let (year, month, day) := moment.date.getD (2000, 1, 1)
  let month := month + months
  let years := if 0 < month then Int.tdiv (month - 1) 12 else Int.tdiv (month - 12) 12
  { moment with date := some (year + years, month - years * 12, day), instant := none }

/-- The moment some years later. -/
def addYears (years : Int) (moment : SqlMoment) : SqlMoment :=
  let moment := moment.complete
  let (year, month, day) := moment.date.getD (2000, 1, 1)
  { moment with date := some (year + years, month, day), instant := none }

/-- The moment some units of time later. -/
def addUnits (count : Float) (unit : Text) (moment : SqlMoment) : Option SqlMoment :=
  let size := FormatDirective.byteCount unit
  if 10 < size || size < 3 then none
  else
    let lowered := unit.toAsciiLower
    let name := if lowered.endsWith "s" then lowered.dropLast else lowered
    let found := units.find? fun entry =>
      (entry.1 : Text) = name && -(Float.ofNat entry.2.1) < count && count < Float.ofNat entry.2.1
    match found with
    | none => none
    | some (kind, _, seconds) =>
        let moment := moment.located
        let wholes := whole count
        let (moment, rest) : SqlMoment × Float :=
          if kind = "month" then (moment.addMonths wholes, count - Cell.realOf wholes)
          else if kind = "year" then (moment.addYears wholes, count - Cell.realOf wholes)
          else (moment, count)
        let moment := moment.located
        let half := Binary64.nearest (count < 0) 1 2
        let added := whole (rest * 1000 * Float.ofNat seconds + half)
        some { moment.bare with instant := moment.instant.map (· + added) }

/-- The moment a time of day later, or earlier. -/
def addClock (text : Text) (moment : SqlMoment) : Option SqlMoment := do
  let first ← text.head?
  let clock ← readClock (if first.isAsciiDigit then text else text.drop 1)
  let instant := (clock.located.instant.getD 0) - 43200000
  let span := Int.tmod instant millisecondsOfDay
  let span := if first = '-' then -span else span
  let moment := moment.located
  return { moment.bare with instant := moment.instant.map (· + span) }

/-- The moment a written span later. -/
def addSpan (text : Text) (moment : SqlMoment) : Option SqlMoment := do
  let ends (point : CodePoint) : Bool := point = CodePoint.ofChar ':' || NumberText.isSpace point
  let written := text.take 1 ++ (text.drop 1).takeWhile fun point => !ends point
  let rest := text.drop written.length
  let count ← number? written
  if Text.startsWith rest ":" then moment.addClock text
  else moment.addUnits count (rest.dropWhile NumberText.isSpace)

/-- The moment that a modifier leads to.  A number is read anew by the first modifier only. -/
def modified (presentAllowed isFirst : Bool) (modifier : Text) (moment : SqlMoment) :
    Except MomentFault SqlMoment :=
  let found? (moment : Option SqlMoment) : Except MomentFault SqlMoment :=
    match moment with
    | some moment => .ok moment
    | none => .error .missing
  let lowered := modifier.toAsciiLower
  match lowered.toString with
  | "auto" => if isFirst then .ok moment.settled else .error .missing
  | "julianday" =>
      if isFirst && moment.instant.isSome && moment.number.isSome then
        .ok { moment with number := none }
      else .error .missing
  | "unixepoch" =>
      match moment.number with
      | none => .error .missing
      | some number =>
          let count := number * 1000 + Float.ofNat 210866760000000
          if isFirst && 0 ≤ count && count < Float.ofNat 464269060800000 then .ok (ofSeconds number)
          else .error .missing
  | "localtime" =>
      if !presentAllowed then .error .present
      else
        let moment := moment.located
        let moment : SqlMoment :=
          if moment.failed then {} else { instant := moment.instant, zoned := moment.zoned }
        .ok { moment.complete with instant := none, zone := none, number := none }
  | "utc" =>
      if !presentAllowed then .error .present
      else if moment.zoned then .ok moment
      else .ok { instant := some (moment.located.instant.getD 0), zoned := true }
  | _ =>
      if lowered.startsWith "weekday " then
        match number? (modifier.drop 8) with
        | some number =>
            if 0 ≤ number && number < 7 && Cell.realOf (whole number) == number then
              .ok (moment.onWeekday (whole number))
            else .error .missing
        | none => .error .missing
      else if lowered.startsWith "start of " then found? (moment.startOf (modifier.drop 9))
      else
        match modifier with
        | [] => .error .missing
        | first :: _ =>
            if first = '+' || first = '-' || first.isAsciiDigit then found? (moment.addSpan modifier)
            else .error .missing

/-- The moment of a value with modifiers behind it, or the present one. -/
def ofCells (presentAllowed : Bool) (cells : List Cell) : Except MomentFault SqlMoment :=
  match cells with
  | [] => if presentAllowed then .ok { instant := some epoch } else .error .present
  | cell :: modifiers => do
      let moment ← ofCell presentAllowed cell
      let moment ← modifiers.zipIdx.foldlM (fun moment modifier =>
        match modifier.1.toText?.map FormatDirective.beforeNul with
        | none => .error .missing
        | some text => moment.modified presentAllowed (modifier.2 = 0) text) moment
      let moment := moment.located
      let instant := moment.instant.getD 0
      if moment.failed || instant < 0 || last < instant then throw .missing
      return moment

/-! ### Writing -/

/-- An integer with zeros in front up to a width, in which a sign counts. -/
def padded (width : Nat) (number : Int) : Text :=
  ({ conversion := CodePoint.ofChar 'd', zeros := true } : FormatDirective).integerText width none
    number

/-- The date of a moment; the sign of its year does not count. -/
def dateText (moment : SqlMoment) : Text :=
  let (year, month, day) := moment.complete.date.getD (2000, 1, 1)
  (if year < 0 then ("-" : Text) else []) ++ padded 4 year.natAbs ++ "-" ++ padded 2 month ++ "-" ++
    padded 2 day

/-- The time of day of a moment. -/
def timeText (moment : SqlMoment) : Text :=
  let (hour, minute, second) := moment.complete.clock.getD (0, 0, 0)
  padded 2 hour ++ ":" ++ padded 2 minute ++ ":" ++ padded 2 (whole second)

/-- The Julian day of a moment. -/
def julianDay (moment : SqlMoment) : Float :=
  Cell.realOf (moment.located.instant.getD 0) / 86400000

/-- The seconds of a moment since the start of the year 1970. -/
def seconds (moment : SqlMoment) : Int :=
  Int.tdiv (moment.located.instant.getD 0) 1000 - 210866760000

/-- What stands for a letter in the format of a moment. -/
def letterText? (moment : SqlMoment) (letter : CodePoint) : Option Text :=
  let moment := moment.located.complete
  let instant := moment.instant.getD 0
  let (year, month, day) := moment.date.getD (2000, 1, 1)
  let (hour, minute, second) := moment.clock.getD (0, 0, 0)
  let start : SqlMoment := { moment with instant := none, date := some (year, 1, 1) }
  let dayOfYear := Int.tdiv (instant - (start.located.instant.getD 0) + 43200000) millisecondsOfDay
  let weekday := Int.tmod (Int.tdiv (instant + 43200000) millisecondsOfDay) 7
  let is (other : Char) : Bool := letter = other
  if is 'd' then some (padded 2 day)
  else if is 'f' then
    let most := Binary64.nearest false 59999 1000
    let shown := ({ form := .fixed, precision := 3 } : DecimalLayout).apply
      (if most < second then most else second)
    some (List.replicate (6 - shown.body.length) Decimal.zero ++ shown.body)
  else if is 'H' then some (padded 2 hour)
  else if is 'j' then some (padded 3 (dayOfYear + 1))
  else if is 'J' then
    some (({ form := .general, precision := 16 } : DecimalLayout).apply moment.julianDay).body
  else if is 'm' then some (padded 2 month)
  else if is 'M' then some (padded 2 minute)
  else if is 's' then some (Text.ofInt moment.seconds)
  else if is 'S' then some (padded 2 (whole second))
  else if is 'w' then
    some (Text.ofInt (Int.tmod (Int.tdiv (instant + 129600000) millisecondsOfDay) 7))
  else if is 'W' then some (padded 2 (Int.tdiv (dayOfYear + 7 - weekday) 7))
  else if is 'Y' then some (padded 4 year)
  else if is '%' then some [letter]
  else none

/-- A moment in a format; `none` if the format has a letter for nothing. -/
def formatted (moment : SqlMoment) : Text → Option Text
  | [] => some []
  | point :: rest =>
      if point ≠ '%' then (moment.formatted rest).map (point :: ·)
      else
        match rest with
        | [] => none
        | letter :: rest => do
            let shown ← moment.letterText? letter
            return shown ++ (← moment.formatted rest)

/-- Functions of moments. -/
def functions : List Text :=
  List.map Text.ofString ["date", "datetime", "julianday", "strftime", "time", "unixepoch"]

/-- The values of a call that name its moment. -/
def momentCells (name : Text) (cells : List Cell) : List Cell :=
  if name = ("strftime" : Text) then cells.drop 1 else cells

/-- Whether a call of such a function depends on when it is made. -/
def isPresent (name : Text) (cells : List Cell) : Bool :=
  functions.contains name &&
    !(name = ("strftime" : Text) && (cells.headD .null).isNull) &&
    match ofCells false (momentCells name cells) with
    | .error .present => true
    | _ => false

/-- The value of a function of moments. -/
def value (name : Text) (cells : List Cell) : Cell :=
  match ofCells true (momentCells name cells) with
  | .error _ => .null
  | .ok moment =>
      match name.toString with
      | "date" => .text moment.dateText
      | "time" => .text moment.timeText
      | "datetime" => .text (moment.dateText ++ " " ++ moment.timeText)
      | "julianday" => .real moment.julianDay
      | "unixepoch" => .integer moment.seconds
      | _ =>
          match (cells.headD .null).toText? with
          | none => .null
          | some format =>
              ((moment.formatted (FormatDirective.beforeNul format)).map Cell.text).getD .null

end SqlMoment

end EventForge
