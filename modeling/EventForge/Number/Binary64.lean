/-!
# Binary floating point

Doubles as exact numbers: a sign, a significand and a power of two.  Integers and doubles are compared
and combined as quantities, and doubles are divided with a remainder.
-/

namespace EventForge

/-!
## Powers

Ranges of integers end at powers of two, and decimal places stand for powers of ten.
-/

/-- A power of two. -/
abbrev twoTo (exponent : Nat) : Nat := Nat.pow 2 exponent

/-- A power of ten. -/
abbrev tenTo (exponent : Nat) : Nat := Nat.pow 10 exponent

/-!
## Double precision numbers

A finite double is a sign, a significand and a power of two.  This file takes doubles apart, rounds
ratios of natural numbers to the nearest double, with ties to the even significand, and cuts doubles
off to integers.
-/

/-- A double as data: the finite ones are `± significand * 2 ^ exponent`. -/
inductive Binary64
  | nan
  | infinite (negative : Bool)
  | finite (negative : Bool) (significand : Nat) (exponent : Int)
deriving DecidableEq, Repr

namespace Binary64

/-- The double with some bits. -/
def ofBits (bits : Nat) : Binary64 :=
  let negative := bits / twoTo 63 == 1
  let biased : Nat := bits / twoTo 52 % twoTo 11
  let fraction := bits % twoTo 52
  if biased = 2047 then if fraction = 0 then .infinite negative else .nan
  else if biased = 0 then .finite negative fraction (-1074)
  else .finite negative (twoTo 52 + fraction) ((biased : Int) - 1075)

def ofFloat (number : Float) : Binary64 := ofBits number.toBits.toNat

/-- The number of binary digits. -/
def bitLength (number : Nat) : Nat := if number = 0 then 0 else Nat.log2 number + 1

/-- The quotient rounded to a natural number, a half to the even one. -/
def roundHalfEven (numerator denominator : Nat) : Nat :=
  let quotient := numerator / denominator
  let twice := 2 * (numerator % denominator)
  if twice > denominator || (twice == denominator && quotient % 2 == 1) then quotient + 1
  else quotient

/-- The quotient times a power of two, as a numerator and a denominator. -/
def scaleBinary (numerator denominator : Nat) (exponent : Int) : Nat × Nat :=
  match exponent with
  | .ofNat shift => (numerator * twoTo shift, denominator)
  | .negSucc shift => (numerator, denominator * twoTo (shift + 1))

/-- The bits, without the sign, of the double nearest to a positive ratio; at the end of the range
the infinite one. -/
def nearestBits (numerator denominator : Nat) : Nat :=
  let guess : Int := 53 - ((bitLength numerator : Int) - bitLength denominator)
  let wide := scaleBinary numerator denominator guess
  let shift := min (if twoTo 53 ≤ wide.1 / wide.2 then guess - 1 else guess) 1074
  let scaled := scaleBinary numerator denominator shift
  let significand := roundHalfEven scaled.1 scaled.2
  let bits := significand + (1074 - shift).toNat * twoTo 52
  min bits (2047 * twoTo 52)

/-- The bits of the double nearest to a ratio with the given sign. -/
def signedBits (negative : Bool) (numerator denominator : Nat) : Nat :=
  let bits := if numerator = 0 then 0 else nearestBits numerator denominator
  if negative then twoTo 63 + bits else bits

/-- The double nearest to a ratio with the given sign. -/
def nearest (negative : Bool) (numerator denominator : Nat) : Float :=
  Float.ofBits (UInt64.ofNat (signedBits negative numerator denominator))

/-- The double nearest to a ratio with the given sign, as data. -/
def rounded (negative : Bool) (numerator denominator : Nat) : Binary64 :=
  ofBits (signedBits negative numerator denominator)

/-- The double nearest to an integer, if it is in the range of the finite ones. -/
def ofInt? (number : Int) : Option Float :=
  if number = 0 then some (Float.ofBits 0)
  else
    let bits := nearestBits number.natAbs 1
    if bits = 2047 * twoTo 52 then none
    else some (nearest (number < 0) number.natAbs 1)

/-- The integer next to a finite double in the direction of zero. -/
def truncate (negative : Bool) (significand : Nat) (exponent : Int) : Int :=
  let scaled := scaleBinary significand 1 exponent
  let magnitude : Int := Int.ofNat (scaled.1 / scaled.2)
  if negative then -magnitude else magnitude

/-- The exact value of a finite double as a ratio. -/
def ratio (negative : Bool) (significand : Nat) (exponent : Int) : Int × Nat :=
  let scaled := scaleBinary significand 1 exponent
  (if negative then -(scaled.1 : Int) else scaled.1, scaled.2)

/-- The integer that a double is exactly, if it is one. -/
def exactInt? (number : Float) : Option Int :=
  match ofFloat number with
  | .finite negative significand exponent =>
      let scaled := scaleBinary significand 1 exponent
      if scaled.1 % scaled.2 = 0 then some (truncate negative significand exponent) else none
  | _ => none

end Binary64

/-!
## Quantities

A quantity is an integer or a double.  Integers stay exact among themselves; beside a double an
integer becomes the double nearest to it, which fails for integers beyond all doubles.
-/

inductive Quantity
  | whole (value : Int)
  | real (value : Float)

namespace Quantity

/-- The double of a quantity. -/
def toFloat? : Quantity → Option Float
  | .whole value => Binary64.ofInt? value
  | .real value => some value

/-- Combines two quantities, exactly if both are integers. -/
def combine? (exact : Int → Int → Int) (rounded : Float → Float → Float) :
    Quantity → Quantity → Option Quantity
  | .whole first, .whole second => some (.whole (exact first second))
  | first, second => do return .real (rounded (← first.toFloat?) (← second.toFloat?))

/-- The exact value of a double as a ratio, or whether it lies above all numbers; NaN is neither. -/
def finite? (value : Float) : Option (Except Bool (Int × Nat)) :=
  match Binary64.ofFloat value with
  | .finite negative significand exponent =>
      some (.ok (Binary64.ratio negative significand exponent))
  | .infinite negative => some (.error !negative)
  | .nan => none

/-- The order of two quantities, which is exact also between an integer and a double. -/
def compare? : Quantity → Quantity → Option Ordering
  | .whole first, .whole second => some (compare first second)
  | .real first, .real second =>
      if first < second then some .lt
      else if second < first then some .gt
      else if first == second then some .eq
      else none
  | .whole first, .real second =>
      (finite? second).map fun value =>
        match value with
        | .ok (top, bottom) => compare (first * bottom) top
        | .error above => if above then .lt else .gt
  | .real first, .whole second =>
      (finite? first).map fun value =>
        match value with
        | .ok (top, bottom) => compare top (second * bottom)
        | .error above => if above then .gt else .lt

def add? : Quantity → Quantity → Option Quantity :=
  combine? (fun first second => first + second) fun first second => first + second

def mul? : Quantity → Quantity → Option Quantity :=
  combine? (fun first second => first * second) fun first second => first * second

end Quantity

/-!
## Division of doubles with a remainder

The remainder is exact and has the sign of the divisor; the quotient is the double nearest to the
whole number of times that the divisor goes into the number.
-/

namespace RealDivision

def negativeZero : Float := Float.ofBits (UInt64.ofNat (twoTo 63))

def zeroLike (number : Float) : Float :=
  if number.toBits.toNat < twoTo 63 then 0 else negativeZero

/-- What is left of a double when another one is taken away as often as possible, with the sign of
the first one. -/
def exactRemainder (number divisor : Float) : Float :=
  match Binary64.ofFloat number, Binary64.ofFloat divisor with
  | .finite negative significand exponent, .finite _ divisorSignificand divisorExponent =>
      if divisorSignificand = 0 then noNumber
      else
        let common := min exponent divisorExponent
        let whole := significand * twoTo (exponent - common).toNat
        let unit := divisorSignificand * twoTo (divisorExponent - common).toNat
        let left := Binary64.scaleBinary (whole % unit) 1 common
        Binary64.nearest negative left.1 left.2
  | .finite _ _ _, .infinite _ => number
  | _, _ => noNumber
where
  noNumber : Float := 0 / 0

/-- The quotient and the remainder. -/
def divide (number divisor : Float) : Float × Float :=
  let left := exactRemainder number divisor
  let quotient := (number - left) / divisor
  let (quotient, left) :=
    if left == 0 then (quotient, zeroLike divisor)
    else if (divisor < 0) != (left < 0) then (quotient - 1, left + divisor)
    else (quotient, left)
  let rounded :=
    if quotient == 0 then zeroLike (number / divisor)
    else
      let floor := quotient.floor
      if 0.5 < quotient - floor then floor + 1 else floor
  (rounded, left)

end RealDivision

end EventForge
