import EventForge.Number.ShortestDecimal
import EventForge.Number.Reading
import EventForge.Number.Binary64
import EventForge.Script.Display

/-!
# Numbers of scripts

Integers are exact and can be of any size.  Beside a double an integer becomes a double.  Texts and
bytes can be read as numbers, and classes can say which numbers their instances stand for.
-/

namespace EventForge

namespace ScriptRun

def refuseDivision {Value : Type} (message : Text) : ScriptRun Value :=
  refuse "ZeroDivisionError" message

def refuseOverflow {Value : Type} (message : Text) : ScriptRun Value :=
  refuse "OverflowError" message

/-- The fault of a result beyond all doubles. -/
def refuseRange {Value : Type} : ScriptRun Value :=
  raiseWith "OverflowError" [.integer 34, .text "Numerical result out of range"]

/-- The double of an integer. -/
def realOfInteger (number : Int) : ScriptRun Float := do
  match Binary64.ofInt? number with
  | some real => return real
  | none => refuseOverflow "int too large to convert to float"

def realOfQuantity : Quantity → ScriptRun Float
  | .whole number => realOfInteger number
  | .real number => return number

/-- The integer next to a double in the direction of zero. -/
def truncated (number : Float) : ScriptRun Int := do
  match Binary64.ofFloat number with
  | .finite negative significand exponent =>
      return Binary64.truncate negative significand exponent
  | .infinite _ => refuseOverflow "cannot convert float infinity to integer"
  | .nan => refuseValue "cannot convert float NaN to integer"

/-- The double that a value stands for, if it is a number. -/
def real? (value : ScriptValue) : ScriptRun (Option Float) := do
  match (← contentOf value).quantity? with
  | some number => return some (← realOfQuantity number)
  | none =>
      match ← method? value "__float__" with
      | some method =>
          match (← contentOf (← call method [])).quantity? with
          | some (.real number) => return some number
          | _ => refuseType ((← kindName value) ++ ".__float__ returned non-float")
      | none =>
          match ← index? value with
          | some number => return some (← realOfInteger number)
          | none => return none

/-- The text that bytes are read as where they stand for a number. -/
def numberText (content : Bytes) : Text := content.map fun byte => CodePoint.ofNat byte.toNat

/-- Reads a text as an integer. -/
def readInteger (base : Nat) (shown content : Text) : ScriptRun ScriptValue := do
  match Reading.integer base content with
  | .ok number => return .integer number
  | .error fault => refuseValue (Reading.integerMessage base shown fault)

/-- The integer that a value is read as. -/
def toInteger (value : ScriptValue) : ScriptRun ScriptValue := do
  match ← method? value "__int__" with
  | some method =>
      let result ← call method []
      match (← contentOf result).integer? with
      | some number => return .integer number
      | none =>
          refuseType (("__int__ returned non-int (type " : Text) ++ (← kindName result) ++ ")")
  | none =>
      match ← index? value with
      | some number => return .integer number
      | none =>
          match ← contentOf value with
          | .unknown => return .unknown
          | .text content => readInteger 10 (Quoted.ofText content) content
          | .float number => return .integer (← truncated number)
          | content =>
              match ← bytes? content with
              | some found => readInteger 10 (Quoted.ofBytes found) (numberText found)
              | none =>
                  match ← method? value "__trunc__" with
                  | some method => call method []
                  | none =>
                      refuseType (("int() argument must be a string, a bytes-like object or a " :
                        Text) ++ "real number, not " ++ Quoted.ofText (← kindName value))

/-- The integer that a text is read as to a base. -/
def toIntegerOfBase (value : ScriptValue) (base : Int) : ScriptRun ScriptValue := do
  if base ≠ 0 && (base < 2 || 36 < base) then
    refuseValue "int() base must be >= 2 and <= 36, or 0"
  match ← contentOf value with
  | .text content => readInteger base.toNat (Quoted.ofText content) content
  | .unknown => return .unknown
  | content =>
      match ← bytes? content with
      | some found => readInteger base.toNat (Quoted.ofBytes found) (numberText found)
      | none => refuseType "int() can't convert non-string with explicit base"

/-- The double that a value is read as. -/
def toReal (value : ScriptValue) : ScriptRun ScriptValue := do
  match ← real? value with
  | some number => return .float number
  | none =>
      let read (shown content : Text) : ScriptRun ScriptValue := do
        match Reading.float? content with
        | some number => return .float number
        | none => refuseValue (("could not convert string to float: " : Text) ++ shown)
      match ← contentOf value with
      | .unknown => return .unknown
      | .text content => read (Quoted.ofText content) content
      | content =>
          match ← bytes? content with
          | some found => read (Quoted.ofBytes found) (numberText found)
          | none =>
              refuseType (("float() argument must be a string or a real number, not " : Text) ++
                Quoted.ofText (← kindName value))

/-- The greatest number of bits of an integer that is computed. -/
def maxBits : Nat := 4000000

/-- A power of integers. -/
def integerPower (first second : Int) : ScriptRun ScriptValue := do
  if second < 0 then
    if first = 0 then refuseDivision "0.0 cannot be raised to a negative power"
    let _ ← realOfInteger first
    return .float (Binary64.nearest (first < 0 && second % 2 ≠ 0) 1
      (Nat.pow first.natAbs (second.natAbs.min 5000)))
  else if Binary64.bitLength first.natAbs * second.natAbs ≤ maxBits || first.natAbs ≤ 1 then
    let exponent := if first.natAbs ≤ 1 then second.toNat % 2 +
      (if second = 0 then 0 else 2) else second.toNat
    return .integer (Int.pow first exponent)
  else return .unknown

/-- A power modulo a number. -/
def powerModulo (base modulus : Nat) : Nat → Nat → Nat → Nat
  | 0, _, result => result
  | fuel + 1, exponent, result =>
      if exponent = 0 then result
      else
        powerModulo (base * base % modulus) modulus fuel (exponent / 2)
          (if exponent % 2 = 1 then result * base % modulus else result)

/-- The number whose product with `base` leaves one modulo a number, if there is one.  The pairs hold
a rest and how often `base` is in it; the fuel bounds the number of divisions. -/
def inverseFrom? : Nat → Int × Int → Int × Int → Option Int
  | 0, _, _ => none
  | fuel + 1, (rest, count), (next, nextCount) =>
      if next = 0 then if rest = 1 then some count else none
      else
        let times := rest / next
        inverseFrom? fuel (next, nextCount) (rest - times * next, count - times * nextCount)

/-- The inverse of a number modulo another one, if there is one. -/
def inverseModulo? (base modulus : Nat) : Option Nat :=
  if modulus = 1 then some 0
  else
    (inverseFrom? (2 * Binary64.bitLength modulus + 2) (modulus, 0) (base % modulus, 1)).map
      fun inverse => (inverse.emod modulus).toNat

/-- A shift of an integer. -/
def shifted (first second : Int) (isLeft : Bool) : ScriptRun ScriptValue := do
  if second < 0 then refuseValue "negative shift count"
  if isLeft then
    if first = 0 then return .integer 0
    if second ≤ maxBits then return .integer (first * twoTo second.toNat)
    return .unknown
  if maxBits < second then return .integer (if first < 0 then -1 else 0)
  return .integer (first.fdiv (twoTo second.toNat))

/-- An operation on the bits of integers, which go on without end to the left.  The bits behind a
sign are those of its complement. -/
def onBits (operation : Nat → Nat → Nat) (first second : Int) : Int :=
  let width := max (Binary64.bitLength first.natAbs) (Binary64.bitLength second.natAbs) + 1
  let modulus : Int := twoTo width
  let bits := operation (first.emod modulus).toNat (second.emod modulus).toNat
  let result : Int := (bits % twoTo width : Nat)
  if 2 * result < modulus then result else result - modulus

/-- The quotient of integers as a double. -/
def trueQuotient (first second : Int) : ScriptRun ScriptValue := do
  if second = 0 then refuseDivision "division by zero"
  let result := Binary64.nearest ((first < 0) != (second < 0)) first.natAbs second.natAbs
  if result.isInf then refuseOverflow "integer division result too large for a float"
  return .float result

/-- An operator on integers, if it has one. -/
def integerOperation? (mark : String) (first second : Int) : ScriptRun (Option ScriptValue) := do
  match mark with
  | "+" => return some (.integer (first + second))
  | "-" => return some (.integer (first - second))
  | "*" => return some (.integer (first * second))
  | "/" => return some (← trueQuotient first second)
  | "//" =>
      if second = 0 then refuseDivision "integer division or modulo by zero"
      return some (.integer (first.fdiv second))
  | "%" =>
      if second = 0 then refuseDivision "integer modulo by zero"
      return some (.integer (first.fmod second))
  | "**" => return some (← integerPower first second)
  | "<<" => return some (← shifted first second true)
  | ">>" => return some (← shifted first second false)
  | "&" => return some (.integer (onBits Nat.land first second))
  | "|" => return some (.integer (onBits Nat.lor first second))
  | "^" => return some (.integer (onBits Nat.xor first second))
  | _ => return none

/-- A power of doubles. -/
def realPower (first second : Float) : ScriptRun ScriptValue := do
  if first == 0 && second < 0 then
    refuseDivision "0.0 cannot be raised to a negative power"
  let isWhole := second.floor == second
  if first < 0 && !isWhole && !first.isInf && !second.isInf then return .unknown
  let result := first.pow second
  if result.isInf && !first.isInf && !second.isInf then refuseRange
  return .float result

/-- An operator on doubles, if it has one. -/
def realOperation? (mark : String) (first second : Float) : ScriptRun (Option ScriptValue) := do
  match mark with
  | "+" => return some (.float (first + second))
  | "-" => return some (.float (first - second))
  | "*" => return some (.float (first * second))
  | "/" =>
      if second == 0 then refuseDivision "float division by zero"
      return some (.float (first / second))
  | "//" =>
      if second == 0 then refuseDivision "float floor division by zero"
      return some (.float (RealDivision.divide first second).1)
  | "%" =>
      if second == 0 then refuseDivision "float modulo"
      return some (.float (RealDivision.divide first second).2)
  | "**" => return some (← realPower first second)
  | _ => return none

/-- An operator on numbers, if it has one. -/
def numberOperation? (mark : String) (first second : ScriptValue) :
    ScriptRun (Option ScriptValue) := do
  match first, second with
  | .bool left, .bool right =>
      match mark with
      | "&" => return some (.bool (left && right))
      | "|" => return some (.bool (left || right))
      | "^" => return some (.bool (left != right))
      | _ =>
          integerOperation? mark (if left then 1 else 0) (if right then 1 else 0)
  | first, second =>
      match first.quantity?, second.quantity? with
      | some (.whole left), some (.whole right) => integerOperation? mark left right
      | some left, some right =>
          if ["<<", ">>", "&", "|", "^", "@"].contains mark then return none
          realOperation? mark (← realOfQuantity left) (← realOfQuantity right)
      | _, _ => return none

/-- The quotient and the remainder of numbers, if they are numbers. -/
def quotientAndRest? (first second : ScriptValue) : ScriptRun (Option ScriptValue) := do
  match first.quantity?, second.quantity? with
  | some (.whole left), some (.whole right) =>
      if right = 0 then refuseDivision "integer division or modulo by zero"
      return some (.tuple [.integer (left.fdiv right), .integer (left.fmod right)])
  | some left, some right =>
      let left ← realOfQuantity left
      let right ← realOfQuantity right
      if right == 0 then refuseDivision "float divmod()"
      let found := RealDivision.divide left right
      return some (.tuple [.float found.1, .float found.2])
  | _, _ => return none

/-- A ratio rounded to a whole number, a half to the even one. -/
def roundedRatio (top : Int) (bottom : Nat) : Int :=
  let rounded : Int := Binary64.roundHalfEven top.natAbs bottom
  if top < 0 then -rounded else rounded

/-- A number rounded to a number of decimal places, or to a whole number. -/
def rounded (value : ScriptValue) (places : Option Int) : ScriptRun (Option ScriptValue) := do
  match value.quantity? with
  | some (.whole number) =>
      match places with
      | some places =>
          if 0 ≤ places then return some (.integer number)
          let unit := tenTo places.natAbs
          return some (.integer (roundedRatio number unit * unit))
      | none => return some (.integer number)
  | some (.real number) =>
      match Binary64.ofFloat number with
      | .finite negative significand exponent =>
          let (top, bottom) := Binary64.ratio negative significand exponent
          match places with
          | none => return some (.integer (roundedRatio top bottom))
          | some places =>
              if 400 < places then return some value
              if places < -400 then return some (.float (RealDivision.zeroLike number))
              let shifted := DecimalPlaces.scaled top.natAbs bottom places
              let whole := Binary64.roundHalfEven shifted.1 shifted.2
              let back := DecimalPlaces.scaled whole 1 (-places)
              let result := Binary64.nearest negative back.1 back.2
              if result.isInf then refuseOverflow "rounded value too large to represent"
              return some (.float result)
      | .infinite _ =>
          if places.isSome then return some value
          refuseOverflow "cannot convert float infinity to integer"
      | .nan =>
          if places.isSome then return some value
          refuseValue "cannot convert float NaN to integer"
  | none => return none

end ScriptRun

end EventForge
