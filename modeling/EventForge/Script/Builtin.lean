import EventForge.Script.Library.System
import EventForge.Script.Conversion

/-!
# What every script knows

Some functions and kinds of values need not be imported.
-/

namespace EventForge

namespace ScriptRun

/-- The functions that every script knows. -/
def builtinNames : List String := [
  "__import__", "abs", "aiter", "all", "anext", "any", "ascii", "bin", "breakpoint", "callable",
  "chr", "compile", "copyright", "credits", "delattr", "dir", "divmod", "eval", "exec", "exit",
  "format", "getattr", "globals", "hasattr", "hash", "help", "hex", "id", "input", "isinstance",
  "issubclass", "iter", "len", "license", "locals", "max", "min", "next", "oct", "open", "ord",
  "pow", "print", "quit", "repr", "round", "setattr", "sorted", "sum", "vars"]

/-- What a name means that no statement has bound. -/
def known? (name : Text) : Option ScriptValue :=
  match KnownKind.ofName? name with
  | some kind => some (.kind kind)
  | none =>
      let found := name.toString
      if builtinNames.contains found then some (.native "" found)
      else
        match found with
        | "Ellipsis" => some .ellipsis
        | "NotImplemented" => some .unsupported
        | "__debug__" => some (.bool true)
        | "__build_class__" => some .unknown
        | _ => none

/-- The first member of a stream for which a test holds. -/
def firstWhere (test : ScriptValue → ScriptRun Bool) (stream : ScriptValue) :
    Nat → ScriptRun Bool
  | 0 => throw .exhausted
  | fuel + 1 => do
      match ← next? stream with
      | none => return false
      | some value => if ← test value then return true else firstWhere test stream fuel

/-- Digits to a base behind a sign and a mark. -/
def markedDigits (mark : Text) (base : Nat) (number : Int) : Text :=
  (if number < 0 then ("-" : Text) else []) ++ mark ++ ValueFormat.digitsOf base number.natAbs

/-- The name that an argument must be. -/
def attributeName (value : ScriptValue) : ScriptRun Text :=
  textOf value fun kind => ("attribute name must be string, not " : Text) ++ Quoted.ofText kind

/-- Whether a value can be called. -/
def isCallable (value : ScriptValue) : ScriptRun Bool := do
  match value with
  | .native _ _ | .bound _ _ | .kind _ | .unknown => return true
  | .object place =>
      match ← objectAt place with
      | .function _ | .madeKind _ => return true
      | .closure closure => return closure.name != "generator"
      | .wrapper .ofNothing _ => return true
      | .instance _ => return (← method? value "__call__").isSome
      | _ => return false
  | _ => return false

/-- Whether a value can do what a kind is described by. -/
def isDescribedBy? (value : ScriptValue) (kind : String) : ScriptRun (Option Bool) := do
  let content ← contentOf value
  let has (name : Text) : ScriptRun Bool := do return (← method? value name).isSome
  match kind with
  | "collections.abc.Callable" | "typing.Callable" => return some (← isCallable value)
  | "collections.abc.Iterable" | "typing.Iterable" =>
      return some ((← has "__iter__") || (← iterateContent? content).isSome)
  | "collections.abc.Iterator" | "typing.Iterator" => return some (← isStream value)
  | "collections.abc.Sized" | "typing.Sized" =>
      return some ((← has "__len__") || (← plainSize? content).isSome)
  | "collections.abc.Mapping" | "collections.abc.MutableMapping" | "typing.Mapping" =>
      return some (← entries? content).isSome
  | "collections.abc.Sequence" | "typing.Sequence" =>
      match content with
      | .text _ | .bytes _ | .tuple _ | .range _ _ _ => return some true
      | content => return some (← list? content).isSome
  | "collections.abc.MutableSequence" => return some (← list? content).isSome
  | "collections.abc.Set" | "typing.AbstractSet" => return some (← setItems? content).isSome
  | "collections.abc.Hashable" | "typing.Hashable" =>
      tryCatch (do requireKey value; return some true) fun stop => do
        if ← isFaultOf stop "TypeError" then return some false else throw stop
  | "numbers.Number" | "numbers.Real" => return some content.quantity?.isSome
  | "numbers.Integral" => return some content.integer?.isSome
  | _ => return none

/-- Whether a value is of one of some kinds.  The fuel bounds how deep kinds are inside tuples. -/
def isInstanceOf : Nat → ScriptValue → ScriptValue → ScriptRun Bool
  | 0, _, _ => refuseDepth ""
  | fuel + 1, value, kinds => do
      match kinds with
      | .tuple kinds => kinds.anyM (isInstanceOf fuel value)
      | .unknown => return value.isUnknown
      | .kind name =>
          match ← isDescribedBy? value name with
          | some found => return found
          | none =>
              if ← isBelow (← kindOf value) kinds then return true
              return name == "type" && (← isKind value)
      | kinds =>
          match ← method? kinds "__instancecheck__" with
          | some method => isTrue (← call method [value])
          | none =>
              if !(← isKind kinds) then
                refuseType "isinstance() arg 2 must be a type, a tuple of types, or a union"
              isBelow (← kindOf value) kinds

/-- Whether a kind belongs to one of some kinds. -/
def isSubclassOf : Nat → ScriptValue → ScriptValue → ScriptRun Bool
  | 0, _, _ => refuseDepth ""
  | fuel + 1, kind, kinds => do
      if kind.isUnknown then return false
      if !(← isKind kind) then refuseType "issubclass() arg 1 must be a class"
      match kinds with
      | .tuple kinds => kinds.anyM (isSubclassOf fuel kind)
      | .unknown => return false
      | kinds =>
          match ← method? kinds "__subclasscheck__" with
          | some method => isTrue (← call method [kind])
          | none =>
              if !(← isKind kinds) then
                refuseType "issubclass() arg 2 must be a class, a tuple of classes, or a union"
              isBelow kind kinds

/-- The greatest or least of some values by what a function makes of them. -/
def extreme (mark : OrderMark) (key : ScriptValue) :
    List ScriptValue → ScriptRun (Option ScriptValue)
  | [] => return none
  | first :: others => do
      let rankOf (value : ScriptValue) : ScriptRun ScriptValue :=
        if key == .nothing then return value else call key [value]
      let start ← rankOf first
      let found ← others.foldlM (fun (best : ScriptValue × ScriptValue) value => do
        let rank ← rankOf value
        if ← isTrue (← compareValues mark rank best.1) then return (rank, value)
        return best) (start, first)
      return some found.2

/-- The greatest or least of the arguments. -/
def extremeOf (name : Text) (mark : OrderMark) (arguments : ScriptArguments) :
    ScriptRun ScriptValue := do
  for (key, _) in arguments.named do
    if !([("key" : Text), "default"].contains key) then
      refuseType (Quoted.ofText key ++ " is an invalid keyword argument for " ++ name ++ "()")
  let key := (arguments.named.get? "key").getD .nothing
  let standard := arguments.named.get? "default"
  match arguments.given with
  | [] => refuseType (name ++ " expected at least 1 argument, got 0")
  | [source] =>
      if source.isUnknown then return .unknown
      match ← extreme mark key (← itemsOf source) with
      | some found => return found
      | none =>
          match standard with
          | some standard => return standard
          | none => refuseValue (name ++ "() arg is an empty sequence")
  | several =>
      if standard.isSome then
        refuseType (("Cannot specify a default for " : Text) ++ name ++
          "() with multiple positional arguments")
      return (← extreme mark key several).getD .nothing

/-- The sum of some values behind a first one. -/
def sumOf (arguments : ScriptArguments) : ScriptRun ScriptValue := do
  if arguments.given.isEmpty then
    refuseType "sum() takes at least 1 positional argument (0 given)"
  let places ← namedArguments "sum" ["iterable", "start"] 1 arguments
  let start := argument places 1 (.integer 0)
  match ← contentOf start with
  | .text _ => refuseType "sum() can't sum strings [use ''.join(seq) instead]"
  | .bytes _ => refuseType "sum() can't sum bytes [use b''.join(seq) instead]"
  | _ => pure ()
  (← itemsOf (argument places 0 .nothing)).foldlM (operate "+") start

/-- A power, which may be taken modulo a number. -/
def powerOf (arguments : ScriptArguments) : ScriptRun ScriptValue := do
  let places ← namedArguments "pow" ["base", "exp", "mod"] 2 arguments
  let base := argument places 0 .nothing
  let exponent := argument places 1 .nothing
  match argument places 2 .nothing with
  | .nothing => operate "**" base exponent
  | modulus =>
      match base.integer?, exponent.integer?, modulus.integer? with
      | some base, some exponent, some modulus =>
          if modulus = 0 then refuseValue "pow() 3rd argument cannot be 0"
          let base := (base.emod modulus).toNat
          let root ←
            if 0 ≤ exponent then pure base
            else
              match inverseModulo? base modulus.natAbs with
              | some inverse => pure inverse
              | none => refuseValue "base is not invertible for the given modulus"
          let found : Int :=
            powerModulo root modulus.natAbs (Binary64.bitLength exponent.natAbs + 1)
              exponent.natAbs 1
          return .integer (found.fmod modulus)
      | _, _, _ =>
          let isNumber (value : ScriptValue) : Bool := value.quantity?.isSome
          if isNumber base && isNumber exponent && isNumber modulus then
            refuseType "pow() 3rd argument not allowed unless all arguments are integers"
          let kinds ← [base, exponent, modulus].mapM fun value => do
            return Quoted.ofText (← kindName value)
          refuseType (("unsupported operand type(s) for ** or pow(): " : Text) ++
            Text.join ", " kinds)

/-- The quotient and the rest of two numbers. -/
def divided (first second : ScriptValue) : ScriptRun ScriptValue := do
  match ← method? first "__divmod__" with
  | some method => call method [second]
  | none =>
      match ← quotientAndRest? (← contentOf first) (← contentOf second) with
      | some found => return found
      | none =>
          if first.isUnknown || second.isUnknown then return .unknown
          match ← method? second "__rdivmod__" with
          | some method => call method [first]
          | none => refuseKinds "divmod()" first second

/-- A number rounded by the method of its class or by its kind. -/
def roundedBy (arguments : ScriptArguments) : ScriptRun ScriptValue := do
  let places ← namedArguments "round" ["number", "ndigits"] 1 arguments
  let number := argument places 0 .nothing
  let digits := argument places 1 .nothing
  match ← method? number "__round__" with
  | some method => call method (if digits == .nothing then [] else [digits])
  | none =>
      let content ← contentOf number
      let digits ←
        if digits == .nothing || content.quantity?.isNone then pure none
        else some <$> indexOf digits
      match ← rounded content digits with
      | some found => return found
      | none =>
          if number.isUnknown then return .unknown
          refuseType (("type " : Text) ++ (← kindName number) ++
            " doesn't define __round__ method")

/-- The next member of a stream. -/
def nextOf (given : List ScriptValue) : ScriptRun ScriptValue := do
  let stream := given.headD .nothing
  if !(← isStream stream) then
    refuseType (Quoted.ofText (← kindName stream) ++ " object is not an iterator")
  match stream, given with
  | .object place, [_] =>
      match ← objectAt place with
      | .stream (.ofFunction _ _ _) =>
          match ← advanceFunction place .nothing none with
          | .handed value | .waits value => return value
          | .ended value => endOfStream value
      | .instance _ =>
          match ← method? stream "__next__" with
          | some method => call method []
          | none => endOfStream .nothing
      | _ =>
          match ← next? stream with
          | some value => return value
          | none => endOfStream .nothing
  | _, _ =>
      match ← next? stream, given with
      | some value, _ => return value
      | none, _ :: standard :: _ => return standard
      | none, _ => endOfStream .nothing

/-- What is shown of a value by a function of its class. -/
def variablesOf (value : ScriptValue) : ScriptRun ScriptValue := do
  match ← attribute? value "__dict__" with
  | some found => return found
  | none => refuseType "vars() argument must have __dict__ attribute"

/-- The functions that every script knows. -/
def builtin (name : String) (arguments : ScriptArguments) : ScriptRun ScriptValue := do
  let written := Text.ofString name
  let one : ScriptRun ScriptValue := oneArgument written arguments
  match name with
  | "print" => printValues arguments
  | "len" =>
      let value ← one
      if value.isUnknown then return .unknown
      match ← size? value with
      | some size => return .integer size
      | none =>
          refuseType (("object of type " : Text) ++ Quoted.ofText (← kindName value) ++
            " has no len()")
  | "repr" => return .text (← displayText (← one))
  | "ascii" => return .text (asciiForm (← displayText (← one)))
  | "abs" =>
      let value ← one
      match ← method? value "__abs__" with
      | some method => call method []
      | none =>
          if value.isUnknown then return .unknown
          match (← contentOf value).quantity? with
          | some (.whole number) => return .integer number.natAbs
          | some (.real number) => return .float number.abs
          | none =>
              refuseType (("bad operand type for abs(): " : Text) ++
                Quoted.ofText (← kindName value))
  | "all" => return .bool !(← firstWhere (fun value => do return !(← isTrue value))
      (← iterate (← one)) maxMembers)
  | "any" => return .bool (← firstWhere isTrue (← iterate (← one)) maxMembers)
  | "bin" => return .text (markedDigits "0b" 2 (← indexOf (← one)))
  | "oct" => return .text (markedDigits "0o" 8 (← indexOf (← one)))
  | "hex" => return .text (markedDigits "0x" 16 (← indexOf (← one)))
  | "callable" => return .bool (← isCallable (← one))
  | "chr" =>
      let number ← indexOf (← one)
      if number < 0 || 0x110000 ≤ number then
        refuseValue "chr() arg not in range(0x110000)"
      return .text [CodePoint.ofNat number.toNat]
  | "ord" =>
      let value ← one
      match ← contentOf value with
      | .text [point] => return .integer point.val
      | .bytes [byte] => return .integer byte.toNat
      | .unknown => return .unknown
      | .text content =>
          refuseType (("ord() expected a character, but string of length " : Text) ++
            Text.ofNat content.length ++ " found")
      | _ =>
          refuseType (("ord() expected string of length 1, but " : Text) ++ (← kindName value) ++
            " found")
  | "getattr" =>
      match ← plainArguments written 2 (some 3) arguments with
      | [value, name] => attributeOf value (← attributeName name)
      | value :: name :: standard :: _ =>
          return (← attribute? value (← attributeName name)).getD standard
      | _ => return .unknown
  | "hasattr" =>
      match ← plainArguments written 2 (some 2) arguments with
      | [value, name] => return .bool (← attribute? value (← attributeName name)).isSome
      | _ => return .unknown
  | "setattr" =>
      match ← plainArguments written 3 (some 3) arguments with
      | [owner, name, value] =>
          setAttribute owner (← attributeName name) value
          return .nothing
      | _ => return .unknown
  | "delattr" =>
      match ← plainArguments written 2 (some 2) arguments with
      | [owner, name] =>
          removeAttribute owner (← attributeName name)
          return .nothing
      | _ => return .unknown
  | "dir" =>
      match ← plainArguments written 0 (some 1) arguments with
      | [value] =>
          match ← method? value "__dir__" with
          | some method => newList (← sortedItems (← itemsOf (← call method [])) .nothing false)
          | none => newList ((← namesOf value).map .text)
      | _ => return .unknown
  | "vars" => variablesOf ((← plainArguments written 0 (some 1) arguments).headD .unknown)
  | "divmod" =>
      match ← plainArguments written 2 (some 2) arguments with
      | [first, second] => divided first second
      | _ => return .unknown
  | "pow" => powerOf arguments
  | "round" => roundedBy arguments
  | "sum" => sumOf arguments
  | "max" => extremeOf written .greater arguments
  | "min" => extremeOf written .less arguments
  | "sorted" =>
      match arguments.given with
      | [source] =>
          let (key, isReversed) ← sortingArguments { named := arguments.named }
          newList (← sortedItems (← itemsOf source) key isReversed)
      | given =>
          refuseType (("sorted expected 1 argument, got " : Text) ++ Text.ofNat given.length)
  | "iter" =>
      match ← plainArguments written 1 (some 2) arguments with
      | [value] => iterate value
      | function :: last :: _ =>
          if !(← isCallable function) then refuseType "iter(v, w): v must be callable"
          newStream (.calling function last)
      | [] => return .unknown
  | "next" => nextOf (← plainArguments written 1 (some 2) arguments)
  | "format" =>
      match ← plainArguments written 1 (some 2) arguments with
      | value :: format =>
          let format ← textOf (format.headD (.text [])) fun kind =>
            ("format() argument 2 must be str, not " : Text) ++ kind
          return .text (← formattedBy value format)
      | [] => return .unknown
  | "hash" => hashOf (← one)
  | "id" =>
      match ← one with
      | .object place => return .integer (0x7f1000000000 + 16 * place)
      | _ => return .unknown
  | "isinstance" =>
      match ← plainArguments written 2 (some 2) arguments with
      | [value, kinds] => return .bool (← isInstanceOf maxNesting value kinds)
      | _ => return .unknown
  | "issubclass" =>
      match ← plainArguments written 2 (some 2) arguments with
      | [kind, kinds] => return .bool (← isSubclassOf maxNesting kind kinds)
      | _ => return .unknown
  | "input" =>
      let prompt ← plainArguments written 0 (some 1) arguments
      writeOutput false (← (prompt.head?.map shownText).getD (pure []))
      refuse "EOFError" "EOF when reading a line"
  | "exit" | "quit" =>
      exitWith (if arguments.given.isEmpty then [.nothing] else arguments.given)
  | "open" => openFile arguments
  | _ => return .unknown

end ScriptRun

end EventForge
