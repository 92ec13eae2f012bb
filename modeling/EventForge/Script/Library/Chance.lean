import EventForge.Script.Conversion

/-!
# Random values of scripts

A random object draws from a source of random words.  Numbers below a bound are drawn as the loops
draw them, so that a seed gives the same values everywhere.
-/

namespace EventForge

namespace ScriptRun

/-- Draws from the random object at a place. -/
def drawFrom {Value : Type} (place : ObjectPlace) (standard : Value)
    (draw : RandomSource → Value × RandomSource) : ScriptRun Value := do
  match ← objectAt place with
  | .random source spare =>
      let (value, source) := draw source
      setObject place (.random source spare)
      return value
  | _ => return standard

def drawBits (place : ObjectPlace) (count : Nat) : ScriptRun Nat :=
  drawFrom place 0 fun source => source.bits count

def drawBelow (place : ObjectPlace) (bound : Nat) : ScriptRun Nat :=
  drawFrom place 0 fun source => source.below bound

/-- A double from zero on below one, of 53 random bits. -/
def drawReal (place : ObjectPlace) : ScriptRun Float := do
  let high ← drawBits place 27
  let low ← drawBits place 26
  return Binary64.nearest false (high * 67108864 + low) 9007199254740992

/-- The double that an argument must be. -/
def realOf (value : ScriptValue) : ScriptRun Float := do
  match ← real? value with
  | some number => return number
  | none => refuseType (("must be real number, not " : Text) ++ (← kindName value))

/-- An integer of the bounds of a random range. -/
def rangeBound (position : Nat) (value : ScriptValue) : ScriptRun Int := do
  match value with
  | .float number =>
      match Binary64.exactInt? number with
      | some whole => return whole
      | none =>
          if position = 3 then refuseValue "non-integer step for randrange()"
          if position = 2 then refuseValue "non-integer stop for randrange()"
          refuseValue "non-integer arg 1 for randrange()"
  | value => indexOf value

/-- A random member of a range. -/
def drawFromRange (place : ObjectPlace) (start : Int) (stop : Option Int) (step : Int) :
    ScriptRun ScriptValue := do
  match stop with
  | none =>
      if start ≤ 0 then refuseValue "empty range for randrange()"
      return .integer (← drawBelow place start.toNat)
  | some stop =>
      let width := stop - start
      if step = 1 then
        if width ≤ 0 then
          refuseValue (("empty range for randrange() (" : Text) ++ Text.ofInt start ++ ", " ++
            Text.ofInt stop ++ ", " ++ Text.ofInt width ++ ")")
        return .integer (start + (← drawBelow place width.toNat))
      if step = 0 then refuseValue "zero step for randrange()"
      let count := ScriptValue.rangeSize start stop step
      if count = 0 then refuseValue "empty range for randrange()"
      return .integer (start + step * (← drawBelow place count))

/-- Exchanges members of a list from its end on with random ones in front of them. -/
def shuffled (place : ObjectPlace) : Nat → Array ScriptValue → ScriptRun (Array ScriptValue)
  | 0, items => return items
  | index + 1, items => do
      if index = 0 then return items
      let other ← drawBelow place (index + 1)
      let last := items.getD index .nothing
      let chosen := items.getD other .nothing
      shuffled place index ((items.setIfInBounds index chosen).setIfInBounds other last)

/-- Random members of a pool, each of them once. -/
def pickedFromPool (place : ObjectPlace) : Nat → Array ScriptValue → ScriptRun (List ScriptValue)
  | 0, _ => return []
  | count + 1, pool => do
      if pool.isEmpty then return []
      let index ← drawBelow place pool.size
      let chosen := pool.getD index .nothing
      let last := pool.getD (pool.size - 1) .nothing
      return chosen :: (← pickedFromPool place count (pool.setIfInBounds index last).pop)

/-- A number below a bound that is not among others.  The fuel bounds the number of tries. -/
def drawNew (place : ObjectPlace) (bound : Nat) (taken : List Nat) : Nat → ScriptRun Nat
  | 0 => return 0
  | fuel + 1 => do
      let index ← drawBelow place bound
      if taken.contains index then drawNew place bound taken fuel else return index

def pickedPlaces (place : ObjectPlace) (bound : Nat) :
    Nat → List Nat → ScriptRun (List Nat)
  | 0, taken => return taken.reverse
  | count + 1, taken => do
      let index ← drawNew place bound taken 100000
      pickedPlaces place bound count (index :: taken)

/-- The least power of four that is no less than a number. -/
def powerOfFour : Nat → Nat → Nat → Nat
  | 0, found, _ => found
  | fuel + 1, found, least => if least ≤ found then found else powerOfFour fuel (4 * found) least

/-- Some random members of a sequence, each of them once. -/
def sampleOf (place : ObjectPlace) (items : List ScriptValue) (count : Int) :
    ScriptRun ScriptValue := do
  let size := items.length
  if count < 0 || (size : Int) < count then
    refuseValue "Sample larger than population or is negative"
  let count := count.toNat
  let small := 21 + (if 5 < count then powerOfFour 40 1 (3 * count) else 0)
  if size ≤ small then newList (← pickedFromPool place count items.toArray)
  else
    let pool := items.toArray
    newList ((← pickedPlaces place size count []).map fun index => pool.getD index .nothing)

/-- The first place of a sorted list behind which a number belongs. -/
def placeOfWeight (weights : List Float) (number : Float) : Nat :=
  (weights.takeWhile fun weight => weight ≤ number).length

/-- Random members of a sequence, which can be chosen several times. -/
def choicesOf (place : ObjectPlace) (items : Array ScriptValue) (weights : Option (List Float))
    (count : Nat) : ScriptRun ScriptValue := do
  let size := items.size
  let drawn ← (List.range count).mapM fun _ => do
    let number ← drawReal place
    match weights with
    | none =>
        let index := (number * size.toFloat).floor.toUInt64.toNat
        return items.getD index .nothing
    | some weights =>
        let total := weights.getLastD 0
        let index := placeOfWeight (weights.take (size - 1)) (number * total)
        return items.getD index .nothing
  newList drawn

/-- The sums of weights from the first one on. -/
def weightSums : Float → List Float → List Float
  | _, [] => []
  | sum, weight :: weights => (sum + weight) :: weightSums (sum + weight) weights

/-- A number of the normal distribution, by the ratio of uniform numbers. -/
def drawNormal (place : ObjectPlace) : Nat → ScriptRun Float
  | 0 => return 0
  | fuel + 1 => do
      let first ← drawReal place
      let second := 1 - (← drawReal place)
      let factor := 4 * Float.exp (-0.5) / Float.sqrt 2
      let number := factor * (first - 0.5) / second
      if number * number / 4 ≤ -(Float.log second) then return number
      drawNormal place fuel

/-- Twice the ratio of the circle. -/
def fullCircle : Float := 6.283185307179586

/-- The methods of random objects. -/
def chanceMethod (name : String) (place : ObjectPlace) (arguments : ScriptArguments) :
    ScriptRun ScriptValue := do
  let short := Text.ofString name
  match name with
  | "random" =>
      noArguments ("Random." ++ short) arguments
      return .float (← drawReal place)
  | "getrandbits" =>
      let count ← indexOf (← oneArgument ("Random." ++ short) arguments)
      if count < 0 then refuseValue "number of bits must be non-negative"
      return .integer (← drawBits place count.toNat)
  | "randbytes" =>
      let count ← indexOf (← oneArgument ("Random." ++ short) arguments)
      if count < 0 then refuseValue "number of bits must be non-negative"
      return .bytes (bytesOfNumber count.toNat (← drawBits place (8 * count.toNat)))
  | "randrange" =>
      let places ← namedArguments short ["start", "stop", "step"] 1 arguments
      let start ← rangeBound 1 (argument places 0 .nothing)
      let stop ← match argument places 1 .nothing with
        | .nothing => pure none
        | stop => pure (some (← rangeBound 2 stop))
      let step ← rangeBound 3 (argument places 2 (.integer 1))
      drawFromRange place start stop step
  | "randint" =>
      let places ← namedArguments short ["a", "b"] 2 arguments
      let start ← rangeBound 1 (argument places 0 .nothing)
      let stop ← rangeBound 2 (← operate "+" (argument places 1 .nothing) (.integer 1))
      drawFromRange place start (some stop) 1
  | "choice" =>
      let value := argument (← namedArguments short ["seq"] 1 arguments) 0 .nothing
      match ← size? value with
      | none =>
          refuseType (("object of type " : Text) ++ Quoted.ofText (← kindName value) ++
            " has no len()")
      | some 0 => refuse "IndexError" "Cannot choose from an empty sequence"
      | some size => itemAt value (.integer (← drawBelow place size))
  | "shuffle" =>
      let value := argument (← namedArguments short ["x"] 1 arguments) 0 .nothing
      match ← contentOf value with
      | .object list =>
          match ← objectAt list with
          | .list items =>
              let items ← shuffled place items.size items
              setObject list (.list items)
              return .nothing
          | _ => return .nothing
      | other =>
          if other.isUnknown then return .nothing
          refuseType (Quoted.ofText (← kindName value) ++
            " object does not support item assignment")
  | "sample" =>
      let places ← namedArguments short ["population", "k", "counts"] 2 arguments
      let population := argument places 0 .nothing
      match ← contentOf population with
      | .text _ | .bytes _ | .tuple _ | .range _ _ _ | .unknown => pure ()
      | content =>
          if (← list? content).isNone && (← method? population "__getitem__").isNone then
            refuseType
              "Population must be a sequence.  For dicts or sets, use sorted(d)."
      sampleOf place (← itemsOf population) (← indexOf (argument places 1 .nothing))
  | "choices" =>
      let places ← namedArguments short ["population", "weights", "cum_weights", "k"] 1 arguments
      let items ← itemsOf (argument places 0 .nothing)
      let count ← indexOf (argument places 3 (.integer 1))
      let sums ←
        match argument places 1 .nothing, argument places 2 .nothing with
        | .nothing, .nothing => pure none
        | .nothing, sums => pure (some (← (← itemsOf sums).mapM realOf))
        | weights, _ => pure (some (weightSums 0 (← (← itemsOf weights).mapM realOf)))
      if let some sums := sums then
        if sums.length ≠ items.length then
          refuseValue "The number of weights does not match the population"
        if sums.getLastD 0 ≤ 0 then refuseValue "Total of weights must be greater than zero"
      if items.isEmpty && 0 < count then refuse "IndexError" "list index out of range"
      choicesOf place items.toArray sums count.toNat
  | "uniform" =>
      let places ← namedArguments short ["a", "b"] 2 arguments
      let low ← realOf (argument places 0 .nothing)
      let high ← realOf (argument places 1 .nothing)
      return .float (low + (high - low) * (← drawReal place))
  | "triangular" =>
      let places ← namedArguments short ["low", "high", "mode"] 0 arguments
      let low ← realOf (argument places 0 (.float 0))
      let high ← realOf (argument places 1 (.float 1))
      let number ← drawReal place
      let middle ← match argument places 2 .nothing with
        | .nothing => pure 0.5
        | mode => pure (((← realOf mode) - low) / (high - low))
      if middle < number then
        return .float (high + (low - high) * Float.sqrt ((1 - number) * (1 - middle)))
      return .float (low + (high - low) * Float.sqrt (number * middle))
  | "expovariate" =>
      let places ← namedArguments short ["lambd"] 1 arguments
      let rate ← realOf (argument places 0 .nothing)
      let number := -(Float.log (1 - (← drawReal place)))
      if rate == 0 then refuseDivision "float division by zero"
      return .float (number / rate)
  | "gauss" =>
      let places ← namedArguments short ["mu", "sigma"] 0 arguments
      let middle ← realOf (argument places 0 (.float 0))
      let width ← realOf (argument places 1 (.float 1))
      match ← objectAt place with
      | .random source (some spare) =>
          setObject place (.random source none)
          return .float (middle + spare * width)
      | _ =>
          let angle := (← drawReal place) * fullCircle
          let length := Float.sqrt (-2 * Float.log (1 - (← drawReal place)))
          changeObject place fun object =>
            match object with
            | .random source _ => .random source (some (Float.sin angle * length))
            | other => other
          return .float (middle + Float.cos angle * length * width)
  | "normalvariate" | "lognormvariate" =>
      let places ← namedArguments short ["mu", "sigma"] 0 arguments
      let middle ← realOf (argument places 0 (.float 0))
      let width ← realOf (argument places 1 (.float 1))
      let number := middle + (← drawNormal place 1000) * width
      return .float (if name == "normalvariate" then number else Float.exp number)
  | "seed" =>
      let seed := argument (← namedArguments short ["a", "version"] 0 arguments) 0 .nothing
      let number := ((← contentOf seed).integer?).getD 0
      setObject place (.random (RandomSource.ofSeed number) none)
      return .nothing
  | _ => return .unknown

end ScriptRun

end EventForge
