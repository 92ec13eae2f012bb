import EventForge.Script.Library.Chance

/-!
# Mathematical functions of scripts

Functions on integers are exact.  Functions on doubles refuse what lies outside their domain.
-/

namespace EventForge

namespace ScriptRun

def refuseDomain {Value : Type} : ScriptRun Value := refuseValue "math domain error"

/-- A result that must be a number if the argument is one. -/
def withinDomain (arguments : List Float) (result : Float) : ScriptRun ScriptValue := do
  if result.isNaN && !arguments.any Float.isNaN then refuseDomain
  if result.isInf && !arguments.any Float.isInf then refuseOverflow "math range error"
  return .float result

/-- The functions of one double. -/
def realFunctions : List (String × (Float → Float)) := [
  ("exp", Float.exp), ("sin", Float.sin), ("cos", Float.cos), ("tan", Float.tan),
  ("asin", Float.asin), ("acos", Float.acos), ("atan", Float.atan), ("sinh", Float.sinh),
  ("cosh", Float.cosh), ("tanh", Float.tanh), ("asinh", Float.asinh), ("acosh", Float.acosh),
  ("sqrt", Float.sqrt), ("cbrt", Float.cbrt), ("fabs", Float.abs),
  ("degrees", fun number => number * (180 / 3.141592653589793)),
  ("radians", fun number => number * (3.141592653589793 / 180))]

/-- The root of the greatest square that is no more than a number.  The fuel bounds the steps. -/
def squareRootFrom : Nat → Nat → Nat → Nat
  | 0, _, guess => guess
  | fuel + 1, number, guess =>
      let next := (guess + number / guess) / 2
      if next < guess then squareRootFrom fuel number next else guess

def squareRoot (number : Nat) : Nat :=
  if number = 0 then 0
  else
    let bits := Binary64.bitLength number
    squareRootFrom (bits + 10) number (twoTo ((bits + 1) / 2))

/-- The product of the numbers behind one up to another. -/
def productBetween (low count : Nat) : Nat :=
  (List.range count).foldl (fun product (index : Nat) => product * (low + index + 1)) 1

/-- The logarithm of a positive integer, also of one beyond all doubles. -/
def logOfInteger (number : Int) (logarithm : Float → Float) : ScriptRun ScriptValue := do
  if number ≤ 0 then refuseDomain
  match Binary64.ofInt? number with
  | some real => return .float (logarithm real)
  | none =>
      let shift := Binary64.bitLength number.natAbs - 60
      let real := Binary64.nearest false (number.natAbs / twoTo shift) 1
      return .float (logarithm real + shift.toFloat * logarithm 2)

def logOf (value : ScriptValue) (logarithm : Float → Float) : ScriptRun ScriptValue := do
  match ← index? value with
  | some number => logOfInteger number logarithm
  | none =>
      let number ← realOf value
      if number ≤ 0 then refuseDomain
      return .float (logarithm number)

/-- The whole numbers that arguments must be. -/
def wholeNumbers (arguments : ScriptArguments) : ScriptRun (List Int) :=
  arguments.given.mapM indexOf

/-- A double rounded by a function, as an integer. -/
def wholePart (method : Text) (round : Float → Float) (value : ScriptValue) :
    ScriptRun ScriptValue := do
  match ← method? value method with
  | some method => call method []
  | none =>
      match ← contentOf value with
      | .float number => return .integer (← truncated (round number))
      | content =>
          match content.integer? with
          | some number => return .integer number
          | none => return .integer (← truncated (round (← realOf value)))

/-- The functions on integers. -/
def integerFunction? (name : String) (arguments : ScriptArguments) :
    ScriptRun (Option ScriptValue) := do
  match name with
  | "gcd" =>
      let numbers ← wholeNumbers arguments
      let found : Nat := numbers.foldl (fun found number => Nat.gcd found number.natAbs) 0
      return some (.integer found)
  | "lcm" =>
      let numbers ← wholeNumbers arguments
      let found : Nat := numbers.foldl (fun found number => Nat.lcm found number.natAbs) 1
      return some (.integer found)
  | "factorial" =>
      let number ← indexOf (← oneArgument "math.factorial" arguments)
      if number < 0 then refuseValue "factorial() not defined for negative values"
      return some (.integer (productBetween 0 number.toNat))
  | "isqrt" =>
      let number ← indexOf (← oneArgument "math.isqrt" arguments)
      if number < 0 then refuseValue "isqrt() argument must be nonnegative"
      return some (.integer (squareRoot number.toNat))
  | "comb" | "perm" =>
      let given ← plainArguments (Text.ofString name) 1 (some 2) arguments
      match ← given.mapM indexOf with
      | number :: others =>
          let count := others.headD number
          if number < 0 then refuseValue "n must be a non-negative integer"
          if count < 0 then refuseValue "k must be a non-negative integer"
          if number < count then return some (.integer 0)
          let ordered := productBetween (number - count).toNat count.toNat
          return some (.integer (if name == "perm" then ordered
            else ordered / productBetween 0 count.toNat))
      | [] => return none
  | _ => return none

/-- The functions of the module for mathematics. -/
def mathematics (name : String) (arguments : ScriptArguments) : ScriptRun ScriptValue := do
  let long := ("math." : Text) ++ Text.ofString name
  if let some found ← integerFunction? name arguments then return found
  if let some entry := realFunctions.find? fun entry => entry.1 == name then
    let number ← realOf (← oneArgument long arguments)
    return ← withinDomain [number] (entry.2 number)
  match name with
  | "floor" => wholePart "__floor__" Float.floor (← oneArgument long arguments)
  | "ceil" => wholePart "__ceil__" Float.ceil (← oneArgument long arguments)
  | "trunc" => wholePart "__trunc__" (fun number => number) (← oneArgument long arguments)
  | "log" =>
      match ← plainArguments "log" 1 (some 2) arguments with
      | [value] => logOf value Float.log
      | value :: base :: _ =>
          match ← logOf value Float.log, ← logOf base Float.log with
          | .float number, .float divisor =>
              if divisor == 0 then refuseDivision "float division by zero"
              return .float (number / divisor)
          | _, _ => return .unknown
      | [] => return .unknown
  | "log2" => logOf (← oneArgument long arguments) Float.log2
  | "log10" => logOf (← oneArgument long arguments) Float.log10
  | "log1p" => return .float (Float.log (1 + (← realOf (← oneArgument long arguments))))
  | "pow" =>
      match ← (← plainArguments "pow" 2 (some 2) arguments).mapM realOf with
      | [first, second] =>
          if first == 0 && second < 0 then refuseDomain
          withinDomain [first, second] (Float.pow first second)
      | _ => return .unknown
  | "atan2" =>
      match ← (← plainArguments "atan2" 2 (some 2) arguments).mapM realOf with
      | [first, second] => return .float (Float.atan2 first second)
      | _ => return .unknown
  | "fmod" =>
      match ← (← plainArguments "fmod" 2 (some 2) arguments).mapM realOf with
      | [first, second] =>
          if second == 0 || first.isInf then refuseDomain
          if second.isInf then return .float first
          let rest := (RealDivision.divide first.abs second.abs).2
          return .float (if first < 0 then -rest else rest)
      | _ => return .unknown
  | "copysign" =>
      match ← (← plainArguments "copysign" 2 (some 2) arguments).mapM realOf with
      | [first, second] =>
          let isNegative := second.toBits.toNat ≥ twoTo 63
          return .float (if isNegative then -first.abs else first.abs)
      | _ => return .unknown
  | "hypot" =>
      let numbers ← arguments.given.mapM realOf
      return .float (Float.sqrt (numbers.foldl (fun sum number => sum + number * number) 0))
  | "isnan" => return .bool (← realOf (← oneArgument long arguments)).isNaN
  | "isinf" => return .bool (← realOf (← oneArgument long arguments)).isInf
  | "isfinite" => return .bool (← realOf (← oneArgument long arguments)).isFinite
  | "isclose" =>
      let places ← namedArguments "isclose" ["a", "b", "rel_tol", "abs_tol"] 2 arguments
      let first ← realOf (argument places 0 .nothing)
      let second ← realOf (argument places 1 .nothing)
      let relative ← realOf (argument places 2 (.float 1e-9))
      let absolute ← realOf (argument places 3 (.float 0))
      if first == second then return .bool true
      if first.isInf || second.isInf then return .bool false
      let distance := (first - second).abs
      return .bool (distance ≤ (relative * second).abs || distance ≤ (relative * first).abs ||
        distance ≤ absolute)
  | "modf" =>
      let number ← realOf (← oneArgument long arguments)
      let whole := if number < 0 then number.ceil else number.floor
      return .tuple [.float (number - whole), .float whole]
  | "prod" =>
      if arguments.given.isEmpty then
        refuseType "prod() takes at least 1 positional argument (0 given)"
      let places ← namedArguments "prod" ["iterable", "start"] 1 arguments
      (← itemsOf (argument places 0 .nothing)).foldlM (operate "*")
        (argument places 1 (.integer 1))
  | "fsum" =>
      let numbers ← (← itemsOf (← oneArgument long arguments)).mapM realOf
      let exact : Rat := numbers.foldl (fun sum number =>
        match Binary64.ofFloat number with
        | .finite negative significand exponent =>
            let (top, bottom) := Binary64.ratio negative significand exponent
            sum + (top : Rat) / (bottom : Rat)
        | _ => sum) 0
      return .float (Binary64.nearest (exact.num < 0) exact.num.natAbs exact.den)
  | _ => return .unknown

/-- The numbers of the module for mathematics. -/
def mathematicalNumbers : List (String × Float) := [
  ("pi", 3.141592653589793), ("e", 2.718281828459045), ("tau", 6.283185307179586),
  ("inf", 1 / 0), ("nan", 0 / 0)]

end ScriptRun

end EventForge
