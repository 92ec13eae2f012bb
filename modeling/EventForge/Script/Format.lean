import EventForge.Number.ShortestDecimal
import EventForge.Script.Display

/-!
# Formats of values

A format says how wide a value is shown, what fills it up, and in which form numbers stand.
-/

namespace EventForge

/-- How a value is shown. -/
structure ValueFormat where
  fill : CodePoint := ' '
  align : Option CodePoint := none
  sign : Option CodePoint := none
  /-- Whether zero has no sign. -/
  plainZero : Bool := false
  alternate : Bool := false
  /-- Whether zeros fill the value up behind its sign. -/
  zeros : Bool := false
  width : Nat := 0
  grouping : Option CodePoint := none
  precision : Option Nat := none
  form : Option CodePoint := none
deriving DecidableEq, Repr, Inhabited

namespace ValueFormat

/-- Why a format is refused. -/
abbrev Reading := Except Text

def isAlign (point : CodePoint) : Bool :=
  point = '<' || point = '>' || point = '=' || point = '^'

/-- Refuses a format. -/
def stop {Value : Type} (reason : Text) : Reading Value := .error reason

/-- The number in front of a text. -/
def takeNumber (text : Text) : Reading (Option Nat × Text) :=
  let digits := text.takeWhile CodePoint.isAsciiDigit
  if digits.isEmpty then .ok (none, text)
  else if 18 < digits.length then .error "Too many decimal digits in format string"
  else .ok (some (Text.digitsValue digits), text.drop digits.length)

def takePoint (wanted : CodePoint → Bool) : Text → Option CodePoint × Text
  | [] => (none, [])
  | point :: rest => if wanted point then (some point, rest) else (none, point :: rest)

/-- The grouping of digits in front of a text. -/
def takeGrouping (text : Text) : Reading (Option CodePoint × Text) :=
  let isMark (point : CodePoint) : Bool := point = ',' || point = '_'
  match takePoint isMark text with
  | (none, rest) => .ok (none, rest)
  | (some mark, rest) =>
      match takePoint isMark rest with
      | (none, _) => .ok (some mark, rest)
      | (some other, _) =>
          if mark = other then .error (("Cannot specify '" : Text) ++ [mark] ++ "' with '" ++
            [other] ++ "'.")
          else .error "Cannot specify both ',' and '_'."

/-- Reads a format for a kind of values. -/
def read (kind text : Text) : Reading ValueFormat := do
  let (fill, align, rest) : CodePoint × Option CodePoint × Text :=
    match text with
    | first :: second :: rest =>
        if isAlign second then (first, some second, rest)
        else if isAlign first then (' ', some first, second :: rest)
        else (' ', none, text)
    | [first] => if isAlign first then (' ', some first, []) else (' ', none, text)
    | [] => (' ', none, [])
  let hasFill := match text with
    | _ :: second :: _ => isAlign second
    | _ => false
  let (sign, rest) := takePoint (fun point => point = '+' || point = '-' || point = ' ') rest
  let (coerced, rest) := takePoint (fun point => point = 'z') rest
  let (alternate, rest) := takePoint (fun point => point = '#') rest
  let (zero, rest) :=
    if hasFill then (none, rest) else takePoint (fun point => point = '0') rest
  let (width, rest) ← takeNumber rest
  let (grouping, rest) ← takeGrouping rest
  let (precision, rest) ←
    match takePoint (fun point => point = '.') rest with
    | (none, rest) => pure (none, rest)
    | (some _, rest) => do
        match ← takeNumber rest with
        | (none, _) => stop "Format specifier missing precision"
        | found => pure found
  let form ←
    match rest with
    | [] => pure none
    | [form] => pure (some form)
    | _ =>
        stop (("Invalid format specifier '" : Text) ++ text ++ "' for object of type '" ++ kind ++
          "'")
  return { fill := if zero.isSome then '0' else fill
           align, sign, plainZero := coerced.isSome, alternate := alternate.isSome
           zeros := zero.isSome, width := width.getD 0, grouping, precision, form }

/-- Fills a text up to the width. -/
def pad (format : ValueFormat) (standard : CodePoint) (text : Text) : Text :=
  let missing := format.width - text.length
  let filled (count : Nat) : Text := List.replicate count format.fill
  let align := format.align.getD standard
  if align = '<' then text ++ filled missing
  else if align = '^' then filled (missing / 2) ++ text ++ filled (missing - missing / 2)
  else filled missing ++ text

/-- Digits in groups, counted from behind.  The fuel bounds the number of the groups. -/
def groupedFrom (mark : CodePoint) (size : Nat) : Nat → Text → Text
  | 0, digits => digits
  | fuel + 1, digits =>
      if digits.length ≤ size then digits
      else
        groupedFrom mark size fuel (digits.take (digits.length - size)) ++ [mark] ++
          digits.drop (digits.length - size)

def grouped (mark : CodePoint) (size : Nat) (digits : Text) : Text :=
  groupedFrom mark size digits.length digits

/-- Zeros in front of digits until they have a length in groups. -/
def zeroGrouped (mark : CodePoint) (size least : Nat) : Nat → Text → Text
  | 0, digits => grouped mark size digits
  | fuel + 1, digits =>
      let shown := grouped mark size digits
      if shown.length < least then zeroGrouped mark size least fuel ("0" ++ digits) else shown

/-- A number of which the sign, a mark, the digits in front of the point and all else are given. -/
def layOut (format : ValueFormat) (negative : Bool) (mark digits behind : Text) (size : Nat) :
    Text :=
  let sign : Text :=
    if negative then "-"
    else
      match format.sign with
      | some sign => if sign = '+' || sign = ' ' then [sign] else []
      | none => []
  let isInner := format.align = some '=' || (format.align.isNone && format.zeros)
  let rest := sign.length + mark.length + behind.length
  let grouping (least : Nat) : Text :=
    match format.grouping with
    | some point => zeroGrouped point size least least digits
    | none => digits
  if isInner then
    let shown := grouping (if format.fill = '0' then format.width - rest else 0)
    let missing := format.width - rest - shown.length
    sign ++ mark ++ List.replicate missing format.fill ++ shown ++ behind
  else format.pad '>' (sign ++ mark ++ grouping 0 ++ behind)

def refuseForm {Value : Type} (kind : Text) (form : CodePoint) : Reading Value :=
  .error (("Unknown format code '" : Text) ++ [form] ++ "' for object of type '" ++ kind ++ "'")

/-- Shows a text. -/
def showText (format : ValueFormat) (content : Text) : Reading Text := do
  let form := format.form.getD 's'
  if let some mark := format.grouping then
    stop (("Cannot specify '" : Text) ++ [mark] ++ "' with '" ++ [form] ++ "'.")
  if form ≠ 's' then refuseForm "str" form
  if format.sign.isSome then stop "Sign not allowed in string format specifier"
  if format.plainZero then
    stop "Negative zero coercion (z) not allowed in string format specifier"
  if format.alternate then stop "Alternate form (#) not allowed in string format specifier"
  if format.align = some '=' then stop "'=' alignment not allowed in string format specifier"
  let shown :=
    match format.precision with
    | some precision => content.take precision
    | none => content
  return format.pad '<' shown

/-- The digits of a number to a base. -/
def digitsOf (base number : Nat) : Text :=
  Text.ofString (String.ofList (Nat.toDigits base number))

def upperCase (text : Text) : Text :=
  text.map fun point =>
    if point.isAsciiLower then CodePoint.ofNat (point.val - 32) else point

/-- The digits in front of the point of a form and all that stands behind them. -/
def splitForm (shown : Text) : Text × Text :=
  let whole := shown.takeWhile CodePoint.isAsciiDigit
  (whole, shown.drop whole.length)

/-- The form of a finite number without its sign. -/
def realForm (format : ValueFormat) (form : Option CodePoint) (numerator denominator : Nat)
    (shortest : Text) : Text :=
  let precision := format.precision.getD 6
  let lower := form.map CodePoint.toAsciiLower
  let count := max precision 1
  if lower = some 'e' then DecimalPlaces.scientific numerator denominator precision format.alternate
  else if lower = some 'f' || lower = some '%' then
    let (whole, behind) := DecimalPlaces.fixed numerator denominator precision
    whole ++ if behind.isEmpty && format.alternate then ("." : Text)
      else DecimalPlaces.fraction behind
  else if lower.isSome then
    DecimalPlaces.general numerator denominator count count format.alternate false
  else
    match format.precision with
    | none => shortest
    | some _ =>
        DecimalPlaces.general numerator denominator count ((count : Int) - 1) format.alternate true

/-- Shows a double in one of the forms for them. -/
def showReal (format : ValueFormat) (kind : Text) (number : Float) : Reading Text := do
  let forms : Text := "eEfFgGn%"
  if let some form := format.form then
    if !forms.contains form then refuseForm kind form
    if form = 'n' then
      if let some mark := format.grouping then
        stop (("Cannot specify '" : Text) ++ [mark] ++ "' with 'n'.")
  let isUpper := (format.form.map CodePoint.isAsciiUpper).getD false
  let cased (shown : Text) : Text := if isUpper then upperCase shown else shown
  let isPercent := format.form = some '%'
  let tail : Text := if isPercent then "%" else []
  match Binary64.ofFloat (if isPercent then number * 100 else number) with
  | .nan => return format.layOut false [] [] (cased "nan" ++ tail) 3
  | .infinite negative => return format.layOut negative [] [] (cased "inf" ++ tail) 3
  | .finite negative significand exponent =>
      let (top, bottom) := Binary64.ratio false significand exponent
      let shortest := ShortestDecimal.text number.abs
      let shown := realForm format format.form top.natAbs bottom shortest
      let isZero := shown.all fun (point : CodePoint) =>
        point = '0' || point = '.' || point = 'e' || point = '+' || point = '-'
      let (whole, behind) := splitForm (cased shown)
      let negative := negative && !(format.plainZero && isZero)
      return format.layOut negative [] whole (behind ++ tail) 3

/-- Shows an integer. -/
def showInteger (format : ValueFormat) (kind : Text) (number : Int) : Reading Text := do
  let realForms : Text := "eEfFgG%"
  let form := format.form.getD 'd'
  if realForms.contains form then
    match Binary64.ofInt? number with
    | some real => return ← format.showReal kind real
    | none => stop "int too large to convert to float"
  let forms : Text := "bcdoxXn"
  if !forms.contains form then refuseForm kind form
  if format.precision.isSome then stop "Precision not allowed in integer format specifier"
  if format.plainZero then
    stop "Negative zero coercion (z) not allowed in integer format specifier"
  if let some mark := format.grouping then
    let allowed : Text := if mark = ',' then "d" else "dboxX"
    if !allowed.contains form then
      stop (("Cannot specify '" : Text) ++ [mark] ++ "' with '" ++ [form] ++ "'.")
  if form = 'c' then
    if format.sign.isSome then stop "Sign not allowed with integer format specifier 'c'"
    if format.alternate then
      stop "Alternate form (#) not allowed with integer format specifier 'c'"
    if number < 0 || 0x110000 ≤ number then stop "%c arg not in range(0x110000)"
    return format.layOut false [] [] [CodePoint.ofNat number.toNat] 3
  let base := if form = 'b' then 2 else if form = 'o' then 8
    else if form = 'x' || form = 'X' then 16 else 10
  let mark : Text := if format.alternate && base ≠ 10 then "0" ++ [form] else []
  let digits := digitsOf base number.natAbs
  let digits := if form = 'X' then upperCase digits else digits
  return format.layOut (number < 0) mark digits [] (if base = 10 then 3 else 4)

end ValueFormat

namespace ScriptRun

/-- The outcome of a format. -/
def ofFormat (outcome : Except Text Text) : ScriptRun Text := do
  match outcome with
  | .ok shown => return shown
  | .error reason =>
      if reason = ("int too large to convert to float" : Text) ||
          reason = ("%c arg not in range(0x110000)" : Text) then
        refuse "OverflowError" reason
      refuseValue reason

/-- A value in the form that a format asks for. -/
def formattedBy (value : ScriptValue) (written : Text) : ScriptRun Text := do
  match ← method? value "__format__" with
  | some method =>
      match ← contentOf (← call method [.text written]) with
      | .text shown => return shown
      | .unknown => return []
      | other =>
          refuseType (("__format__ must return a str, not " : Text) ++ (← kindName other))
  | none =>
      if written.isEmpty then return ← shownText value
      let kind ← kindName value
      let isMember ← isOf value "enum.Enum"
      let content ←
        if isMember then pure (ScriptValue.text (← shownText value)) else contentOf value
      let content ←
        if (← isOf value "enum.IntEnum") || (← isOf value "enum.IntFlag") then
          contentOf value
        else pure content
      match content with
      | .text content => ofFormat ((ValueFormat.read kind written).bind (·.showText content))
      | .integer number =>
          ofFormat ((ValueFormat.read kind written).bind (·.showInteger kind number))
      | .bool truth =>
          ofFormat ((ValueFormat.read kind written).bind
            (·.showInteger kind (if truth then 1 else 0)))
      | .float number => ofFormat ((ValueFormat.read kind written).bind (·.showReal kind number))
      | .unknown => return []
      | _ =>
          refuseType (("unsupported format string passed to " : Text) ++ kind ++ ".__format__")

end ScriptRun

end EventForge
