import EventForge.Number.Binary64
import EventForge.Text.Basic

/-!
# Decimal numbers

Numbers are read from texts and laid out as decimal texts.
-/

/-!
## Numbers with sixty-four significant bits

Positive numbers whose significand has sixty-four bits, and zero.  Every operation rounds its exact
result to the nearest such number, with ties to the even significand.  The range of exponents has no
end.
-/

namespace EventForge

/-- The number `significand * 2 ^ exponent`. -/
structure Extended where
  significand : Nat
  exponent : Int
deriving DecidableEq, Repr, Inhabited

namespace Extended

/-- The number nearest to a ratio. -/
def nearest (numerator denominator : Nat) : Extended :=
  let guess : Int :=
    64 - ((Binary64.bitLength numerator : Int) - Binary64.bitLength denominator)
  let wide := Binary64.scaleBinary numerator denominator guess
  let shift := if twoTo 64 ≤ wide.1 / wide.2 then guess - 1 else guess
  let scaled := Binary64.scaleBinary numerator denominator shift
  { significand := Binary64.roundHalfEven scaled.1 scaled.2, exponent := -shift }

/-- The exact value as a ratio. -/
def ratio (number : Extended) : Nat × Nat :=
  Binary64.scaleBinary number.significand 1 number.exponent

def ofNat (number : Nat) : Extended := nearest number 1

/-- The magnitude of a finite double, which is held exactly. -/
def ofFloat (number : Float) : Extended :=
  match Binary64.ofFloat number with
  | .finite _ significand exponent => { significand, exponent }
  | _ => { significand := 0, exponent := 0 }

/-- The double nearest to the number, with a sign. -/
def toFloat (negative : Bool) (number : Extended) : Float :=
  Binary64.nearest negative number.ratio.1 number.ratio.2

/-- The integer part. -/
def floor (number : Extended) : Nat := number.ratio.1 / number.ratio.2

def mul (first second : Extended) : Extended :=
  nearest (first.ratio.1 * second.ratio.1) (first.ratio.2 * second.ratio.2)

def div (first second : Extended) : Extended :=
  nearest (first.ratio.1 * second.ratio.2) (first.ratio.2 * second.ratio.1)

def add (first second : Extended) : Extended :=
  nearest (first.ratio.1 * second.ratio.2 + second.ratio.1 * first.ratio.2)
    (first.ratio.2 * second.ratio.2)

/-- The difference, zero if the second number is the greater one. -/
def sub (first second : Extended) : Extended :=
  nearest (first.ratio.1 * second.ratio.2 - second.ratio.1 * first.ratio.2)
    (first.ratio.2 * second.ratio.2)

instance : Mul Extended := ⟨mul⟩

instance : Div Extended := ⟨div⟩

instance : Add Extended := ⟨add⟩

instance : Sub Extended := ⟨sub⟩

/-- Whether the first number is at most the second. -/
def le (first second : Extended) : Bool :=
  first.ratio.1 * second.ratio.2 ≤ second.ratio.1 * first.ratio.2

/-- The powers of ten that are made by squaring: the factor for each binary digit of the exponent is
the square of the one before it. -/
def powerFrom (square result : Extended) : Nat → Nat → Extended
  | 0, _ => result
  | fuel + 1, exponent =>
      let result := if exponent % 2 = 1 then result * square else result
      if exponent / 2 = 0 then result
      else powerFrom (square * square) result fuel (exponent / 2)

/-- Ten to a power. -/
def tenTo (exponent : Nat) : Extended :=
  powerFrom (ofNat 10) (ofNat 1) (exponent + 1) exponent

end Extended

/-!
## Decimal numbers of the database

A decimal number is read into nineteen digits at most, which are scaled by a power of ten with
sixty-four significant bits and then rounded to a double.  A double is written with fifteen digits,
found one after the other in the same arithmetic.  Neither is always the nearest number.
-/

namespace Decimal

/-- The significand takes no further digit from here on. -/
def significandLimit : Nat := (twoTo 63 - 10) / 10

/-- A significand with the digits of an integer part, and how many digits it could not take. -/
def takeWhole (significand : Nat) : Text → Nat × Nat
  | [] => (significand, 0)
  | digit :: digits =>
      let significand := significand * 10 + (digit.val - 48)
      if significandLimit ≤ significand then (significand, digits.length)
      else takeWhole significand digits

/-- A significand with the digits of a fraction, and how many digits it took. -/
def takeFraction (significand : Nat) : Text → Nat × Nat
  | [] => (significand, 0)
  | digit :: digits =>
      if significandLimit ≤ significand then (significand, 0)
      else
        let (result, taken) := takeFraction (significand * 10 + (digit.val - 48)) digits
        (result, taken + 1)

/-- Moves a positive power of ten into the significand as far as it has room. -/
def raise (significand : Nat) : Nat → Nat × Nat
  | 0 => (significand, 0)
  | exponent + 1 =>
      if (twoTo 63 - 1) / 10 ≤ significand then (significand, exponent + 1)
      else raise (significand * 10) exponent

/-- Takes trailing zeros of the significand against a negative power of ten. -/
def lower (significand : Nat) : Nat → Nat × Nat
  | 0 => (significand, 0)
  | exponent + 1 =>
      if significand % 10 ≠ 0 then (significand, exponent + 1)
      else lower (significand / 10) exponent

/-- The double for a significand times a power of ten. -/
def scale (negative : Bool) (significand : Nat) (exponent : Int) : Float :=
  let up : Bool := 0 ≤ exponent
  let (significand, size) :=
    if significand = 0 then (0, 0)
    else if up then raise significand exponent.natAbs
    else lower significand exponent.natAbs
  let exact := Extended.ofNat significand
  if size = 0 then exact.toFloat negative
  else if size ≤ 307 then
    let power := Extended.tenTo size
    (if up then exact * power else exact / power).toFloat negative
  else if size < 342 then
    let power := Extended.tenTo (size - 308)
    let edge := Binary64.nearest false (tenTo 308) 1
    if up then (exact * power).toFloat negative * edge else (exact / power).toFloat negative / edge
  else if up then Binary64.nearest negative (tenTo 400) 1
  else Binary64.nearest negative 0 1

/-- The double for the parts of a decimal number. -/
def read (negative : Bool) (whole fraction : Text) (exponent : Int) : Float :=
  let (significand, dropped) := takeWhole 0 whole
  let (significand, taken) := takeFraction significand fraction
  scale negative significand (exponent + dropped - taken)

/-- Multiplies a scale by a step while the scaled number is at least one step. -/
def grow (number step : Extended) (size : Nat) (scale : Extended) (exponent : Nat) :
    Nat → Extended × Nat
  | 0 => (scale, exponent)
  | fuel + 1 =>
      if (step * scale).le number && exponent ≤ 350 then
        grow number step size (scale * step) (exponent + size) fuel
      else (scale, exponent)

/-- Multiplies a number by a factor while it is below a limit: the number, and how often. -/
def shrink (limit factor : Extended) (number : Extended) : Nat → Extended × Nat
  | 0 => (number, 0)
  | fuel + 1 =>
      if limit.le number then (number, 0)
      else
        let (result, count) := shrink limit factor (number * factor) fuel
        (result, count + 1)

/-- The double nearest to a power of ten. -/
def tenNear (exponent : Int) : Extended :=
  Extended.ofFloat
    (if 0 ≤ exponent then Binary64.nearest false (tenTo exponent.natAbs) 1
    else Binary64.nearest false 1 (tenTo exponent.natAbs))

/-- A positive number scaled to lie between one and ten, and its power of ten. -/
def normal (number : Extended) : Extended × Int :=
  let one := Extended.ofNat 1
  let (scale, exponent) := grow number (tenNear 100) 100 one 0 4
  let (scale, exponent) := grow number (tenNear 10) 10 scale exponent 11
  let (scale, exponent) := grow number (tenNear 1) 1 scale exponent 11
  let number := number / scale
  let (number, eights) := shrink (tenNear (-8)) (tenNear 8) number 50
  let (number, ones) := shrink one (tenNear 1) number 10
  (number, (exponent : Int) - 8 * eights - ones)

/-- Half of the fifteenth digit of a number between one and ten. -/
def half : Extended :=
  Extended.ofFloat (Binary64.nearest false 5 100000 * Binary64.nearest false 1 (tenTo 10))

/-- The leading digits of a number below ten. -/
def digits (number : Extended) : Nat → Text
  | 0 => []
  | count + 1 =>
      let digit := number.floor
      CodePoint.ofNat (48 + digit) ::
        digits ((number - Extended.ofNat digit) * tenNear 1) count

def zero : CodePoint := 0x30

/-- Digits without zeros at the end; at least one digit is left of a fraction. -/
def fraction (digits : Text) : Text :=
  match (digits.reverse.dropWhile fun digit => digit = zero).reverse with
  | [] => [zero]
  | kept => kept

/-- The text of a power of ten behind digits. -/
def powerText (exponent : Int) : Text :=
  let size := exponent.natAbs
  (if exponent < 0 then ("e-" : Text) else "e+") ++ (if size < 10 then [zero] else []) ++
    Text.ofNat size

/-- A positive finite double with fifteen digits at most and a point. -/
def positiveText (number : Float) : Text :=
  let (scaled, exponent) := normal (Extended.ofFloat number)
  let rounded := scaled + half
  let (scaled, exponent) :=
    if (Extended.ofNat 10).le rounded then (rounded * tenNear (-1), exponent + 1)
    else (rounded, exponent)
  let shown := digits scaled 15
  if exponent < -4 || 14 < exponent then
    shown.take 1 ++ "." ++ fraction (shown.drop 1) ++ powerText exponent
  else if exponent < 0 then
    ("0." : Text) ++ List.replicate (exponent.natAbs - 1) zero ++ fraction shown
  else
    shown.take (exponent.natAbs + 1) ++ "." ++ fraction (shown.drop (exponent.natAbs + 1))

/-- The text of a double. -/
def text (number : Float) : Text :=
  match Binary64.ofFloat number with
  | .nan => []
  | .infinite negative => if negative then "-Inf" else "Inf"
  | .finite negative significand _ =>
      if significand = 0 then "0.0"
      else (if negative then ("-" : Text) else []) ++ positiveText number

end Decimal

/-!
## Laying out decimal numbers

A double is laid out with a number of decimal places, with a power of ten behind one digit, or in
the shorter of the two ways.  Its digits are found one after the other in the arithmetic of
sixty-four significant bits, after half a unit of the last place is added; behind a number of digits
that is significant all are zeros.
-/

inductive DecimalForm
  | fixed
  /-- One digit in front of the point, and a power of ten behind its letter. -/
  | scientific
  /-- Fixed for powers of ten that the digits reach, scientific for the others. -/
  | general
deriving DecidableEq, Repr

structure DecimalLayout where
  form : DecimalForm
  /-- The digits behind the point, or in the general form all digits. -/
  precision : Nat := 6
  /-- What stands in front of a number that is not negative. -/
  plus : Text := []
  /-- The letter in front of a power of ten. -/
  letter : CodePoint := CodePoint.ofChar 'e'
  /-- Whether the point and the zeros behind it are kept. -/
  alternate : Bool := false
  /-- Whether ten more digits are significant, and one digit always follows a point. -/
  wide : Bool := false
  /-- Whether commas part the digits in front of the point. -/
  grouped : Bool := false

/-- A number that is laid out: its sign, and what follows it. -/
structure LaidOut where
  sign : Text
  body : Text
  /-- Whether the number is not infinite. -/
  finite : Bool := true

namespace DecimalLayout

/-- Half a unit of a decimal place. -/
def half (places : Nat) : Float :=
  (List.range (places / 10)).foldl (fun unit _ => unit * Binary64.nearest false 1 (tenTo 10))
    (Binary64.nearest false 5 (tenTo (places % 10 + 1)))

/-- The power of two of a double, as it is stored. -/
def binaryExponent (number : Float) : Int :=
  (number.toBits.toNat / twoTo 52 % twoTo 11 : Nat) - 1023

/-- A number with half a unit of its last decimal place.  Where the digits of a double reach this
place, a number right below a half counts as one. -/
def raised (places : Nat) (number : Float) : Extended :=
  let exact := Extended.ofFloat number
  let unit := half places
  let unit : Float :=
    if (places : Int) + Int.tdiv (binaryExponent number) 3 < 15 then
      (Extended.ofFloat unit + exact * Extended.ofFloat (Binary64.nearest false 3 (tenTo 16))).toFloat
        false
    else unit
  exact + Extended.ofFloat unit

/-- A number below ten and a power of ten, or zero. -/
def normal (number : Extended) : Extended × Int :=
  if number.significand = 0 then (number, 0) else Decimal.normal number

/-- Digits of a number below ten, with zeros behind those that are significant. -/
def digits (significant count : Nat) (number : Extended) : Text :=
  let known := Decimal.digits number (Nat.min significant count)
  known ++ List.replicate (count - known.length) Decimal.zero

/-- Digits with a comma in front of each three, counted from the end. -/
def commas : Text → Text
  | [] => []
  | digit :: digits =>
      if digits.length % 3 = 0 && !digits.isEmpty then
        digit :: CodePoint.ofChar ',' :: commas digits
      else digit :: commas digits

/-- Digits around a point, without the zeros that are not kept. -/
def pointed (layout : DecimalLayout) (precision : Nat) (drops : Bool) (whole fraction : Text) :
    Text :=
  let hasPoint := 0 < precision || layout.alternate || layout.wide
  let kept :=
    if drops && hasPoint then
      (fraction.reverse.dropWhile fun digit => digit = Decimal.zero).reverse
    else fraction
  let kept := if drops && layout.wide && kept.isEmpty then [Decimal.zero] else kept
  whole ++
    (if !hasPoint || (drops && kept.isEmpty) then [] else CodePoint.ofChar '.' :: kept)

/-- Digits of a number between one and ten times a power of ten, with some decimal places. -/
def placed (layout : DecimalLayout) (precision : Nat) (drops : Bool) (number : Extended)
    (exponent : Int) : Text :=
  let significant := if layout.wide then 26 else 16
  if exponent < 0 then
    let zeros := Nat.min (exponent.natAbs - 1) precision
    pointed layout precision drops [Decimal.zero]
      (List.replicate zeros Decimal.zero ++ digits significant (precision - zeros) number)
  else
    let shown := digits significant (exponent.toNat + 1 + precision) number
    let whole := shown.take (exponent.toNat + 1)
    pointed layout precision drops (if layout.grouped then commas whole else whole)
      (shown.drop (exponent.toNat + 1))

/-- The power of ten behind its letter. -/
def power (layout : DecimalLayout) (exponent : Int) : Text :=
  let size := exponent.natAbs
  layout.letter :: CodePoint.ofChar (if exponent < 0 then '-' else '+') ::
    ((if size < 10 then [Decimal.zero] else []) ++ Text.ofNat size)

/-- A finite number that is not negative. -/
def finiteBody (layout : DecimalLayout) (number : Float) : Text :=
  match layout.form with
  | .fixed =>
      let (scaled, exponent) := normal (raised layout.precision number)
      placed layout layout.precision layout.wide scaled exponent
  | form =>
      let precision := if form = .general then layout.precision - 1 else layout.precision
      let (scaled, exponent) := normal (Extended.ofFloat number)
      let rounded := scaled + Extended.ofFloat (half precision)
      let (scaled, exponent) :=
        if (Extended.ofNat 10).le rounded then (rounded * Decimal.tenNear (-1), exponent + 1)
        else (rounded, exponent)
      let drops := if form = .general then !layout.alternate else layout.wide
      if form = .scientific || exponent < -4 || (precision : Int) < exponent then
        placed layout precision drops scaled 0 ++ power layout exponent
      else placed layout (precision - exponent).toNat drops scaled exponent

/-- A number that is laid out. -/
def apply (layout : DecimalLayout) (number : Float) : LaidOut :=
  let sign : Text := if number < 0 then "-" else layout.plus
  match Binary64.ofFloat number with
  | .nan => { sign := [], body := "NaN", finite := false }
  | .infinite _ => { sign, body := "Inf", finite := false }
  | .finite _ _ _ => { sign, body := finiteBody layout number.abs }

end DecimalLayout

namespace Decimal

/-- From here on every double is an integer. -/
def wholeLimit : Float := Binary64.nearest false (twoTo 52) 1

/-- A double rounded to some decimal places: to an integer half away from zero, else as it is laid
out. -/
def rounded (places : Nat) (number : Float) : Float :=
  if number < -wholeLimit || wholeLimit < number then number
  else if places = 0 then
    match Binary64.ofFloat (number + Binary64.nearest (number < 0) 1 2) with
    | .finite negative significand exponent =>
        (Binary64.ofInt? (Binary64.truncate negative significand exponent)).getD 0
    | _ => number
  else
    let layout : DecimalLayout := { form := .fixed, precision := places, wide := true }
    let shown := (layout.apply number).body
    let whole := shown.takeWhile CodePoint.isAsciiDigit
    read (number < 0) whole (shown.drop (whole.length + 1)) 0

end Decimal

end EventForge
