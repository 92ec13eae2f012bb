import EventForge.Script.CollectionMethod
import EventForge.Script.TextMethod

/-!
# Values of known kinds and methods of numbers

Calls of known kinds, and the methods that integers and doubles have.
-/

namespace EventForge

/-!
## Values of known kinds

A call of a known kind makes a value of that kind from others.
-/

namespace ScriptRun

/-- The member of some arguments that may be missing, where only one is taken. -/
def atMostOne (name : Text) (arguments : ScriptArguments) : ScriptRun (Option ScriptValue) := do
  return (← plainArguments name 0 (some 1) arguments).head?

/-- The members of an argument that may be missing. -/
def membersOfArgument (name : Text) (arguments : ScriptArguments) :
    ScriptRun (List ScriptValue) := do
  match ← atMostOne name arguments with
  | some source => itemsOf source
  | none => return []

def integerFrom (arguments : ScriptArguments) : ScriptRun ScriptValue := do
  if 2 < arguments.given.length then
    refuseType (("int() takes at most 2 arguments (" : Text) ++
      Text.ofNat arguments.given.length ++ " given)")
  match arguments.given, arguments.named with
  | [], [] => return .integer 0
  | [value], [] => toInteger value
  | [value, base], [] => toIntegerOfBase value (← indexOf base)
  | given, (name, base) :: _ =>
      if name ≠ ("base" : Text) then
        refuseType (Quoted.ofText name ++ " is an invalid keyword argument for int()")
      match given with
      | value :: _ => toIntegerOfBase value (← indexOf base)
      | [] => refuseType "int() missing string argument"
  | _, _ => return .unknown

def textFrom (arguments : ScriptArguments) : ScriptRun ScriptValue := do
  if 3 < arguments.given.length then
    refuseType (("str() takes at most 3 arguments (" : Text) ++
      Text.ofNat arguments.given.length ++ " given)")
  let places ← namedArguments "str" ["object", "encoding", "errors"] 0 arguments
  match places with
  | [none, none, none] => return .text []
  | [some value, none, none] =>
      if value.isUnknown then return .unknown
      return .text (← shownText value)
  | places =>
      let refusal (argument kind : Text) : Text :=
        ("str() argument '" : Text) ++ argument ++ "' must be str, not " ++ kind
      let encoding ← textOf (argument places 1 (.text "utf-8")) (refusal "encoding")
      let mode ← textOf (argument places 2 (.text "strict")) (refusal "errors")
      match ← bytes? (← contentOf (argument places 0 (.bytes []))) with
      | some content => decoded content encoding mode
      | none =>
          match ← contentOf (argument places 0 .nothing) with
          | .text _ => refuseType "decoding str is not supported"
          | other =>
              refuseType (("decoding to str: need a bytes-like object, " : Text) ++
                (← kindName other) ++ " found")

/-- The bytes that arguments stand for. -/
def bytesFrom (name : Text) (arguments : ScriptArguments) : ScriptRun Bytes := do
  let places ← namedArguments name ["source", "encoding", "errors"] 0 arguments
  for (place, part) in [(1, ("encoding" : Text)), (2, "errors")] do
    if let some value := places.getD place none then
      let _ ← textOf value fun kind =>
        name ++ "() argument '" ++ part ++ "' must be str, not " ++ kind
  let isEncoded := (places.getD 1 none).isSome || (places.getD 2 none).isSome
  match places.getD 0 none with
  | none => return []
  | some source =>
      match ← contentOf source with
      | .text content =>
          match places.getD 1 none with
          | none => refuseType "string argument without an encoding"
          | some encoding =>
              let encoding ← textOf encoding fun kind =>
                name ++ "() argument 'encoding' must be str, not " ++ kind
              match ← encoded content encoding "strict" with
              | .bytes content => return content
              | _ => return []
      | .unknown => return []
      | content =>
          if isEncoded then
            refuseType (("encoding without a string argument" : Text))
          match ← bytes? content with
          | some found => return found
          | none =>
              match ← index? source with
              | some count =>
                  if count < 0 then refuseValue "negative count"
                  return List.replicate count.toNat 0
              | none =>
                  let items ← tryCatch (itemsOf source) fun stop => do
                    if ← isFaultOf stop "TypeError" then
                      refuseType (("cannot convert " : Text) ++ Quoted.ofText (← kindName source) ++
                        " object to " ++ name)
                    else throw stop
                  items.mapM fun item => do
                    let number ← indexOf item
                    if number < 0 || 255 < number then
                      refuseValue (name ++ " must be in range(0, 256)")
                    return UInt8.ofNat number.toNat

def rangeFrom (arguments : ScriptArguments) : ScriptRun ScriptValue := do
  match ← plainArguments "range" 1 (some 3) arguments with
  | [stop] => return .range 0 (← indexOf stop) 1
  | [start, stop] => return .range (← indexOf start) (← indexOf stop) 1
  | start :: stop :: step :: _ =>
      let start ← indexOf start
      let stop ← indexOf stop
      let step ← indexOf step
      if step = 0 then refuseValue "range() arg 3 must not be zero"
      return .range start stop step
  | [] => return .unknown

/-- A mapping with the entries that arguments give. -/
def mappingFrom (name : Text) (arguments : ScriptArguments) : ScriptRun ObjectPlace := do
  let given ← plainArguments name 0 (some 1) { given := arguments.given }
  let place ← keep (.mapping #[])
  if let some source := given.head? then putEntries place (← entriesFrom source)
  arguments.named.forM fun entry => putUnder place (.text entry.1) entry.2
  return place

/-- The members of a value from the last to the first. -/
def reversedStream (value : ScriptValue) : ScriptRun ScriptValue := do
  match ← method? value "__reversed__" with
  | some method => call method []
  | none =>
      let refuseOrder : ScriptRun ScriptValue := do
        refuseType (Quoted.ofText (← kindName value) ++ " object is not reversible")
      match ← contentOf value with
      | .unknown => return .unknown
      | .text content => newStream (.values (content.reverse.map fun point => .text [point]))
      | .tuple items => newStream (.values items.reverse)
      | .bytes content =>
          newStream (.values (content.reverse.map fun byte => .integer byte.toNat))
      | .range start stop step =>
          newStream (.values (ScriptValue.rangeItems start stop step).reverse)
      | .object place =>
          match ← objectAt place with
          | .list items => newStream (.values items.toList.reverse)
          | .mapping _ | .view _ _ => newStream (.values (← itemsOf (.object place)).reverse)
          | .instance _ =>
              match ← method? value "__getitem__", ← size? value with
              | some method, some size =>
                  let items ← (List.range size).mapM fun (index : Nat) =>
                    call method [.integer index]
                  newStream (.values items.reverse)
              | _, _ => refuseOrder
          | _ => refuseOrder
      | _ => refuseOrder

def enumerationFrom (arguments : ScriptArguments) : ScriptRun ScriptValue := do
  if arguments.given.isEmpty && (arguments.named.get? "iterable").isNone then
    refuseType "enumerate() missing required argument 'iterable'"
  let places ← namedArguments "enumerate" ["iterable", "start"] 1 arguments
  let start ← indexOf (argument places 1 (.integer 0))
  newStream (.numbered start (← iterate (argument places 0 .nothing)))

def zipFrom (arguments : ScriptArguments) : ScriptRun ScriptValue := do
  let strict ←
    match arguments.named with
    | [] => pure false
    | (name, value) :: _ =>
        if name = ("strict" : Text) then isTrue value
        else refuseType (Quoted.ofText name ++ " is an invalid keyword argument for zip()")
  newStream (.zipped (← arguments.given.mapM iterate) strict)

/-- Makes a value of a known kind that holds no instances of its own; none for other kinds. -/
def convert? (kind : String) (arguments : ScriptArguments) : ScriptRun (Option ScriptValue) := do
  match kind with
  | "int" => return some (← integerFrom arguments)
  | "float" =>
      match ← atMostOne "float" arguments with
      | some value => return some (← toReal value)
      | none => return some (.float 0)
  | "bool" =>
      match ← atMostOne "bool" arguments with
      | some value => return some (.bool (← isTrue value))
      | none => return some (.bool false)
  | "str" => return some (← textFrom arguments)
  | "bytes" => return some (.bytes (← bytesFrom "bytes" arguments))
  | "bytearray" => return some (← keepValue (.buffer (← bytesFrom "bytearray" arguments)))
  | "list" => return some (← newList (← membersOfArgument "list" arguments))
  | "tuple" => return some (.tuple (← membersOfArgument "tuple" arguments))
  | "set" => return some (← newSet (← membersOfArgument "set" arguments) false)
  | "frozenset" => return some (← newSet (← membersOfArgument "frozenset" arguments) true)
  | "dict" => return some (.object (← mappingFrom "dict" arguments))
  | "range" => return some (← rangeFrom arguments)
  | "slice" =>
      match ← plainArguments "slice" 1 (some 3) arguments with
      | [stop] => return some (.slice .nothing stop .nothing)
      | [start, stop] => return some (.slice start stop .nothing)
      | start :: stop :: step :: _ => return some (.slice start stop step)
      | [] => return none
  | "enumerate" => return some (← enumerationFrom arguments)
  | "zip" => return some (← zipFrom arguments)
  | "map" =>
      match arguments.given with
      | function :: first :: others =>
          return some (← newStream (.mapped function (← (first :: others).mapM iterate)))
      | _ => refuseType "map() must have at least two arguments."
  | "filter" =>
      match ← plainArguments "filter" 2 (some 2) arguments with
      | [function, source] => return some (← newStream (.chosen true function (← iterate source)))
      | _ => return none
  | "reversed" =>
      match ← plainArguments "reversed" 1 (some 1) arguments with
      | [value] => return some (← reversedStream value)
      | _ => return none
  | "NoneType" => return some .nothing
  | "complex" | "memoryview" => return some .unknown
  | "classmethod" | "staticmethod" =>
      let function ← plainArguments (Text.ofString kind) 1 (some 1) arguments
      return some (← keepValue (.wrapper
        (if kind == "classmethod" then .ofClass else .ofNothing) function))
  | "property" =>
      let places ← namedArguments "property" ["fget", "fset", "fdel", "doc"] 0 arguments
      return some (← keepValue (.wrapper .computed
        (places.map fun place => place.getD .nothing)))
  | _ => return none

end ScriptRun

/-!
## Methods of numbers

Integers are written as bytes and read from them.  Doubles are shown as ratios and in hexadecimal
digits, so that nothing of their values is lost.
-/

namespace ScriptRun

/-- The bytes of a number, the least significant first. -/
def bytesOfNumber : Nat → Nat → Bytes
  | 0, _ => []
  | count + 1, number => UInt8.ofNat (number % 256) :: bytesOfNumber count (number / 256)

/-- The number that bytes stand for, the least significant first. -/
def numberOfBytes : Bytes → Nat
  | [] => 0
  | byte :: rest => byte.toNat + 256 * numberOfBytes rest

/-- Whether the least significant byte comes first. -/
def isLittle (function : Text) (order : ScriptValue) : ScriptRun Bool := do
  match order with
  | .text name =>
      if name = ("little" : Text) then return true
      if name = ("big" : Text) then return false
      refuseValue "byteorder must be either 'little' or 'big'"
  | order =>
      refuseType (function ++ "() argument 'byteorder' must be str, not " ++ (← kindName order))

/-- The bytes of an integer. -/
def integerBytes (number : Int) (arguments : ScriptArguments) : ScriptRun ScriptValue := do
  let places ← namedArguments "to_bytes" ["length", "byteorder", "signed"] 0 arguments
  let length ← indexOf (argument places 0 (.integer 1))
  let little ← isLittle "to_bytes" (argument places 1 (.text "big"))
  let isSigned ← isTrue (argument places 2 (.bool false))
  if length < 0 then refuseValue "length argument must be non-negative"
  if number < 0 && !isSigned then refuseOverflow "can't convert negative int to unsigned"
  let size := length.toNat
  let bound : Int := twoTo (8 * size)
  let fits := if isSigned then -bound ≤ 2 * number && 2 * number < bound || number = 0
    else number < bound
  if !fits then refuseOverflow "int too big to convert"
  let content := bytesOfNumber size (number.emod bound).toNat
  return .bytes (if little then content else content.reverse)

/-- The integer that bytes stand for. -/
def integerOfBytes (arguments : ScriptArguments) : ScriptRun ScriptValue := do
  let places ← namedArguments "from_bytes" ["bytes", "byteorder", "signed"] 1 arguments
  let source := argument places 0 .nothing
  let content ←
    match ← bytes? (← contentOf source) with
    | some content => pure content
    | none => bytesFrom "bytes" { given := [source] }
  let little ← isLittle "from_bytes" (argument places 1 (.text "big"))
  let isSigned ← isTrue (argument places 2 (.bool false))
  let number : Int := numberOfBytes (if little then content else content.reverse)
  let bound : Int := twoTo (8 * content.length)
  return .integer (if isSigned && bound ≤ 2 * number then number - bound else number)

/-- The bits that are set in a number. -/
def bitCount : Nat → Nat → Nat
  | 0, _ => 0
  | fuel + 1, number => if number = 0 then 0 else number % 2 + bitCount fuel (number / 2)

/-- The methods of integers. -/
def integerMethod (name : String) (number : Int) (arguments : ScriptArguments) :
    ScriptRun ScriptValue := do
  let long := ("int." : Text) ++ Text.ofString name
  let plain (value : ScriptValue) : ScriptRun ScriptValue := do
    noArguments long arguments
    return value
  match name with
  | "bit_length" => plain (.integer (Binary64.bitLength number.natAbs))
  | "bit_count" =>
      plain (.integer (bitCount (Binary64.bitLength number.natAbs) number.natAbs))
  | "conjugate" => plain (.integer number)
  | "as_integer_ratio" => plain (.tuple [.integer number, .integer 1])
  | "to_bytes" => integerBytes number arguments
  | _ => return .unknown

/-- The hexadecimal form of a double. -/
def realDigits (number : Float) : Text :=
  match Binary64.ofFloat number with
  | .nan => "nan"
  | .infinite negative => if negative then "-inf" else "inf"
  | .finite negative significand exponent =>
      let sign : Text := if negative then "-" else []
      if significand = 0 then sign ++ "0x0.0p+0"
      else
        let isNormal := twoTo 52 ≤ significand
        let fraction := significand % twoTo 52
        let power : Int := exponent + 52
        sign ++ (if isNormal then ("0x1." : Text) else "0x0.") ++ Text.ofHex 13 fraction ++ "p" ++
          (if power < 0 then ([] : Text) else "+") ++ Text.ofInt power

/-- Removes common factors of two. -/
def reducedRatio : Nat → Int → Nat → Int × Nat
  | 0, top, bottom => (top, bottom)
  | fuel + 1, top, bottom =>
      if bottom % 2 = 0 && top % 2 = 0 then reducedRatio fuel (top / 2) (bottom / 2)
      else (top, bottom)

/-- The methods of doubles. -/
def realMethod (name : String) (number : Float) (arguments : ScriptArguments) :
    ScriptRun ScriptValue := do
  let long := ("float." : Text) ++ Text.ofString name
  noArguments long arguments
  match name with
  | "conjugate" => return .float number
  | "hex" => return .text (realDigits number)
  | "is_integer" =>
      match Binary64.ofFloat number with
      | .finite negative significand exponent =>
          let (top, bottom) := Binary64.ratio negative significand exponent
          return .bool (top % bottom = 0)
      | _ => return .bool false
  | "as_integer_ratio" =>
      match Binary64.ofFloat number with
      | .finite negative significand exponent =>
          let (top, bottom) := Binary64.ratio negative significand exponent
          let (top, bottom) := reducedRatio 1100 top bottom
          return .tuple [.integer top, .integer bottom]
      | .infinite _ => refuseOverflow "cannot convert Infinity to integer ratio"
      | .nan => refuseValue "cannot convert NaN to integer ratio"
  | _ => return .unknown

end ScriptRun

end EventForge
