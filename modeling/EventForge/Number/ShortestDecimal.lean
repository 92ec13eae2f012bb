import EventForge.Number.Binary64
import EventForge.Text.Basic

/-!
# Decimal texts of doubles

The fewest digits that read back, and digits up to a fixed place.
-/

namespace EventForge

/-!
## Shortest decimal text

A double is written with the fewest digits that read back as it; of the candidates with that many
digits the one nearest to it is taken, an even last digit on a tie.  Positional notation is used
from `0.0001` up to, but not including, `1e16`.
-/

namespace ShortestDecimal

/-- Digits and the place of the point: `0.d₁d₂… * 10 ^ point`. -/
structure Digits where
  digits : Nat
  point : Int
deriving DecidableEq, Repr

/-- The reals that round to a positive double, all over one denominator. -/
structure Interval where
  low : Nat
  value : Nat
  high : Nat
  denominator : Nat
  closed : Bool

/-- The interval of the reals that round to `significand * 2 ^ exponent`. -/
def interval (significand : Nat) (exponent : Int) : Interval :=
  let lowGap := if significand = twoTo 52 && exponent > -1074 then 1 else 2
  let scale (quarters : Nat) := Binary64.scaleBinary quarters 1 (exponent - 2)
  { low := (scale (4 * significand - lowGap)).1
    value := (scale (4 * significand)).1
    high := (scale (4 * significand + 2)).1
    denominator := (scale 1).2
    closed := significand % 2 == 0 }

/-- How often a ratio below one must be multiplied by ten to reach one. -/
def tensToOne (numerator denominator : Nat) : Nat → Nat
  | 0 => 0
  | fuel + 1 =>
      if numerator < denominator then 1 + tensToOne (numerator * 10) denominator fuel else 0

/-- The power of ten of the first digit of a positive ratio. -/
def leadingPower (numerator denominator : Nat) : Int :=
  if numerator < denominator then -(tensToOne numerator denominator 400 : Int)
  else (Nat.repr (numerator / denominator)).length - 1

/-- The candidate with `count` digits, if one of the two neighbours of the value on that grid lies
in the interval. -/
def candidate? (reals : Interval) (power : Int) (count : Nat) : Option Digits :=
  let unit := power - count + 1
  let up := if unit < 0 then tenTo unit.natAbs else 1
  let down := if unit < 0 then 1 else tenTo unit.natAbs
  let grid := down * reals.denominator
  let lower := reals.value * up / grid
  let inside (digits : Nat) :=
    let real := digits * grid
    if reals.closed then reals.low * up ≤ real && real ≤ reals.high * up
    else reals.low * up < real && real < reals.high * up
  let below := reals.value * up - lower * grid
  let above := (lower + 1) * grid - reals.value * up
  let found (digits : Nat) : Option Digits := some { digits, point := unit }
  match inside lower, inside (lower + 1) with
  | true, true =>
      if below < above || (below == above && lower % 2 == 0) then found lower else found (lower + 1)
  | true, false => found lower
  | false, true => found (lower + 1)
  | false, false => none

/-- The shortest candidate with at least `count` digits. -/
def search (reals : Interval) (power : Int) (count : Nat) : Nat → Option Digits
  | 0 => none
  | fuel + 1 =>
      (candidate? reals power count).or (search reals power (count + 1) fuel)

/-- The digits of a positive double. -/
def digits (significand : Nat) (exponent : Int) : Digits :=
  let reals := interval significand exponent
  let power := leadingPower reals.value reals.denominator
  (search reals power 1 17).getD { digits := reals.value / reals.denominator, point := 0 }

/-- The digits without zeros at the end. -/
def dropZeros (text : Text) : Text :=
  (text.reverse.dropWhile (· = ('0' : CodePoint))).reverse

/-- The text of digits with the point behind the first `point` of them. -/
def layout (digits : Text) (point : Int) : Text :=
  if -4 < point && point ≤ 16 then
    if point ≤ 0 then "0." ++ List.replicate point.natAbs (0x30 : CodePoint) ++ digits
    else if digits.length ≤ point.toNat then
      digits ++ List.replicate (point.toNat - digits.length) (0x30 : CodePoint) ++ ".0"
    else digits.take point.toNat ++ "." ++ digits.drop point.toNat
  else
    let power := point - 1
    let mantissa := if digits.length ≤ 1 then digits else digits.take 1 ++ "." ++ digits.drop 1
    let size := Text.ofNat power.natAbs
    mantissa ++ "e" ++ (if power < 0 then "-" else "+") ++
      (if size.length < 2 then "0" ++ size else size)

/-- The text of a double. -/
def text (number : Float) : Text :=
  match Binary64.ofFloat number with
  | .nan => "nan"
  | .infinite negative => if negative then "-inf" else "inf"
  | .finite negative significand exponent =>
      let sign : Text := if negative then "-" else []
      if significand = 0 then sign ++ "0.0"
      else
        let found := digits significand exponent
        let shown := Text.ofNat found.digits
        sign ++ layout (dropZeros shown) (found.point + shown.length)

end ShortestDecimal

/-!
## Decimals with a given number of places

A ratio of natural numbers is rounded to a number of places behind the point, or to a number of
significant digits.  The rounding is exact, and a half goes to the even digit.
-/

namespace DecimalPlaces

/-- The point and the digits behind it. -/
def fraction (digits : Text) : Text := if digits.isEmpty then [] else "." ++ digits

/-- Zeros in front of digits, up to a length. -/
def padded (width : Nat) (digits : Text) : Text :=
  List.replicate (width - digits.length) (0x30 : CodePoint) ++ digits

/-- The digits in front of the point and those behind it. -/
def fixed (numerator denominator places : Nat) : Text × Text :=
  let rounded := Binary64.roundHalfEven (numerator * tenTo places) denominator
  let digits := padded (places + 1) (Text.ofNat rounded)
  (digits.take (digits.length - places), digits.drop (digits.length - places))

/-- A ratio times a power of ten. -/
def scaled (numerator denominator : Nat) (power : Int) : Nat × Nat :=
  if power < 0 then (numerator, denominator * tenTo power.natAbs)
  else (numerator * tenTo power.natAbs, denominator)

/-- The first digits of a ratio, and the power of ten of the first of them. -/
def significant (numerator denominator count : Nat) : Text × Int :=
  if numerator = 0 then (List.replicate count (0x30 : CodePoint), 0)
  else
    let power := ShortestDecimal.leadingPower numerator denominator
    let shifted := scaled numerator denominator ((count : Int) - 1 - power)
    let digits := Text.ofNat (Binary64.roundHalfEven shifted.1 shifted.2)
    if count < digits.length then (digits.take count, power + 1) else (digits, power)

/-- A power of ten behind its letter, with at least two digits. -/
def exponentText (power : Int) : Text :=
  ("e" : Text) ++ (if power < 0 then ("-" : Text) else "+") ++
    padded 2 (Text.ofNat power.natAbs)

/-- The form with a power of ten. -/
def scientific (numerator denominator places : Nat) (keepsPoint : Bool) : Text :=
  let (digits, power) := significant numerator denominator (places + 1)
  digits.take 1 ++
    (if places = 0 && keepsPoint then ("." : Text) else fraction (digits.drop 1)) ++
    exponentText power

/-- Digits without the zeros at their end. -/
def withoutZeros (digits : Text) : Text := ShortestDecimal.dropZeros digits

/-- The form with a number of significant digits, which has a power of ten where the number is very
small, or where the digits in front of the point are more than `limit`. -/
def general (numerator denominator count : Nat) (limit : Int) (keepsZeros addsZero : Bool) : Text :=
  let (digits, power) := significant numerator denominator count
  if power < -4 || limit ≤ power then
    let behind := if keepsZeros then digits.drop 1 else withoutZeros (digits.drop 1)
    digits.take 1 ++ (if keepsZeros && behind.isEmpty then ("." : Text) else fraction behind) ++
      exponentText power
  else
    let (whole, behind) :=
      if power < 0 then
        (("0" : Text), List.replicate (power.natAbs - 1) (0x30 : CodePoint) ++ digits)
      else (digits.take (power.toNat + 1), digits.drop (power.toNat + 1))
    let behind := if keepsZeros then behind else withoutZeros behind
    whole ++
      if behind.isEmpty then
        (if addsZero then (".0" : Text) else if keepsZeros then "." else [])
      else fraction behind

end DecimalPlaces

end EventForge
