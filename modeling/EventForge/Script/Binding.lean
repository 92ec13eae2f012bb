import EventForge.Script.Iteration

/-!
# Arguments and parameters

What a call passes, and how it is bound to the parameters of a function.
-/

namespace EventForge

/-!
## Arguments of functions of the library

A function of the library takes a number of plain arguments, or arguments that can also be named.
Arguments that it does not take are refused.
-/

namespace ScriptRun

/-- A number of things, as it stands in a refusal. -/
def counted (number : Nat) (thing : Text) : Text :=
  Text.ofNat number ++ " " ++ thing ++ (if number = 1 then ([] : Text) else "s")

/-- The last part of the name of a function. -/
def lastPart (function : Text) : Text :=
  ((function.splitAt '.').getLast?).getD function

def refuseNames (function : Text) (arguments : ScriptArguments) : ScriptRun Unit := do
  if !arguments.named.isEmpty then
    refuseType (function ++ "() takes no keyword arguments")

/-- A function that takes no arguments. -/
def noArguments (function : Text) (arguments : ScriptArguments) : ScriptRun Unit := do
  refuseNames function arguments
  if !arguments.given.isEmpty then
    refuseType (function ++ "() takes no arguments (" ++ Text.ofNat arguments.given.length ++
      " given)")

/-- A function that takes one argument. -/
def oneArgument (function : Text) (arguments : ScriptArguments) : ScriptRun ScriptValue := do
  refuseNames function arguments
  match arguments.given with
  | [value] => return value
  | given =>
      refuseType (function ++ "() takes exactly one argument (" ++ Text.ofNat given.length ++
        " given)")

/-- A function that takes a number of plain arguments within bounds. -/
def plainArguments (function : Text) (least : Nat) (most : Option Nat)
    (arguments : ScriptArguments) : ScriptRun (List ScriptValue) := do
  refuseNames function arguments
  let name := lastPart function
  let found := arguments.given.length
  if some least = most && found ≠ least then
    refuseType (name ++ " expected " ++ counted least "argument" ++ ", got " ++ Text.ofNat found)
  if found < least then
    refuseType (name ++ " expected at least " ++ counted least "argument" ++ ", got " ++
      Text.ofNat found)
  if let some most := most then
    if most < found then
      refuseType (name ++ " expected at most " ++ counted most "argument" ++ ", got " ++
        Text.ofNat found)
  return arguments.given

/-- Puts named arguments in the places of the names of a function. -/
def placeNamed (function : Text) (names : List Text) (places : List (Option ScriptValue)) :
    Fields ScriptValue → ScriptRun (List (Option ScriptValue))
  | [] => return places
  | (name, value) :: others => do
      match names.findIdx? fun found => found = name with
      | none =>
          refuseType (Quoted.ofText name ++ " is an invalid keyword argument for " ++
            lastPart function ++ "()")
      | some place =>
          if (places.getD place none).isSome then
            refuseType (("argument for " : Text) ++ lastPart function ++
              "() given by name (" ++ Quoted.ofText name ++ ") and position (" ++
              Text.ofNat (place + 1) ++ ")")
          placeNamed function names (places.set place (some value)) others

/-- A function whose arguments have names; the first ones must be given. -/
def namedArguments (function : Text) (names : List String) (least : Nat)
    (arguments : ScriptArguments) : ScriptRun (List (Option ScriptValue)) := do
  let names := names.map Text.ofString
  let short := lastPart function
  let found := arguments.given.length + arguments.named.length
  if names.length < found then
    refuseType (short ++ "() takes at most " ++ counted names.length "argument" ++ " (" ++
      Text.ofNat found ++ " given)")
  let places := arguments.given.map some ++
    List.replicate (names.length - arguments.given.length) none
  let places ← placeNamed function names places arguments.named
  match (places.take least).findIdx? Option.isNone with
  | none => return places
  | some missing =>
      refuseType (short ++ "() missing required argument '" ++ names.getD missing [] ++
        "' (pos " ++ Text.ofNat (missing + 1) ++ ")")

/-- An argument that may be left out. -/
def argument (places : List (Option ScriptValue)) (index : Nat) (standard : ScriptValue) :
    ScriptValue :=
  (places.getD index none).getD standard

/-- A text that an argument must be. -/
def textOf (value : ScriptValue) (refusal : Text → Text) : ScriptRun Text := do
  match ← contentOf value with
  | .text content => return content
  | .unknown => return []
  | _ => refuseType (refusal (← kindName value))

/-- A stop that stands for the end of a stream, with what comes with it. -/
def endOfStream {Value : Type} (result : ScriptValue) : ScriptRun Value :=
  raiseWith "StopIteration" (if result == .nothing then [] else [result])

end ScriptRun

/-!
## Arguments and parameters

The plain arguments of a call go to the plain parameters in order, the named ones to the parameters
of their names.  Defaults stand in for arguments that are not given.  What is left goes to the
parameters for further arguments, and is refused where there are none.
-/

namespace ScriptRun

/-- Names one after the other, the last one behind a word. -/
def listedNames (names : List Text) : Text :=
  match names.map Quoted.ofText with
  | [] => []
  | [only] => only
  | [first, second] => first ++ " and " ++ second
  | several =>
      Text.join ", " several.dropLast ++ ", and " ++ ((several.getLast?).getD [])

/-- The refusal of missing arguments. -/
def refuseMissing (path kind : Text) (names : List Text) : ScriptRun Unit := do
  if !names.isEmpty then
    refuseType (path ++ "() missing " ++ Text.ofNat names.length ++ " required " ++ kind ++
      " argument" ++ (if names.length = 1 then ([] : Text) else "s") ++ ": " ++ listedNames names)

/-- The refusal of too many plain arguments. -/
def refuseTooMany (path : Text) (taken least found named : Nat) : ScriptRun Unit := do
  let range : Text :=
    if least = taken then Text.ofNat taken
    else ("from " : Text) ++ Text.ofNat least ++ " to " ++ Text.ofNat taken
  let isSeveral := least ≠ taken || taken ≠ 1
  let given : Text :=
    if named = 0 then Text.ofNat found ++ (if found = 1 then (" was" : Text) else " were")
    else
      Text.ofNat found ++ " positional argument" ++ (if found = 1 then ([] : Text) else "s") ++
        " (and " ++ counted named "keyword-only argument" ++ ") were"
  refuseType (path ++ "() takes " ++ range ++ " positional argument" ++
    (if isSeveral then ("s" : Text) else []) ++ " but " ++ given ++ " given")

/-- The names that a function has when it begins. -/
def boundNames (path : Text) (parameters : List CodeParameter) (defaults : Fields ScriptValue)
    (arguments : ScriptArguments) : ScriptRun (Fields ScriptValue) := do
  let ofShape (shape : ParameterShape) : List Text :=
    (parameters.filter fun parameter => parameter.shape = shape).map fun parameter =>
      parameter.name
  let placedOnly := ofShape .placed
  let plain := placedOnly ++ ofShape .plain
  let namedOnly := ofShape .named
  let others := (ofShape .others).head?
  let otherNames := (ofShape .otherNames).head?
  let placed := plain.zip arguments.given
  let further := arguments.given.drop plain.length
  let isKnown (name : Text) : Bool :=
    (plain.contains name && !placedOnly.contains name) || namedOnly.contains name
  for (name, _) in arguments.named do
    if isKnown name then
      if (Fields.get? placed name).isSome then
        refuseType (path ++ "() got multiple values for argument " ++ Quoted.ofText name)
    else if otherNames.isNone then
      let misplaced := arguments.named.filterMap fun field =>
        if placedOnly.contains field.1 then some field.1 else none
      if misplaced.isEmpty then
        refuseType (path ++ "() got an unexpected keyword argument " ++ Quoted.ofText name)
      else
        refuseType (path ++
          "() got some positional-only arguments passed as keyword arguments: '" ++
          Text.join ", " misplaced ++ "'")
  let lacking (names : List Text) : List Text :=
    names.filter fun name => (Fields.get? defaults name).isNone
  if !further.isEmpty && others.isNone then
    let named := (arguments.named.filter fun field => namedOnly.contains field.1).length
    refuseTooMany path plain.length (lacking plain).length arguments.given.length named
  let found := placed ++ arguments.named.filter fun field => isKnown field.1
  let missing (names : List Text) : List Text :=
    (lacking names).filter fun name => (Fields.get? found name).isNone
  refuseMissing path "positional" (missing plain)
  refuseMissing path "keyword-only" (missing namedOnly)
  let valued (names : List Text) : Fields ScriptValue :=
    names.filterMap fun name =>
      ((Fields.get? found name).orElse fun _ => Fields.get? defaults name).map fun value =>
        (name, value)
  let rest : Fields ScriptValue := others.toList.map fun name => (name, .tuple further)
  let restNames ← otherNames.toList.mapM fun name => do
    let left := arguments.named.filter fun field => !isKnown field.1
    return (name, ← newMapping (left.map fun field => (ScriptValue.text field.1, field.2)))
  return valued plain ++ valued namedOnly ++ rest ++ restNames

/-- What a call comes to: a value, or a function that has to run. -/
inductive Prepared
  | value (value : ScriptValue)
  | frame (frame : ScriptFrame)
deriving Inhabited

/-- The frame in which a function begins. -/
def frameOf (function : ScriptFunction) (arguments : ScriptArguments) : ScriptRun ScriptFrame := do
  let code := function.code
  let path : Text ←
    match ← field? function.names "__qualname__" with
    | some (.text path) => pure path
    | _ => pure code.path
  let names ← boundNames path code.parameters function.defaults arguments
  let scope ← keep (.scope names (some function.outer))
  return { code := code.body, scope, globals := function.globals }

/-- Calls a function of a script: one that stops is a stream at first. -/
def startFunction (function : ScriptFunction) (arguments : ScriptArguments) :
    ScriptRun Prepared := do
  let frame ← frameOf function arguments
  match function.code.flavour with
  | .plain => return .frame frame
  | flavour =>
      return .value (← newStream (.ofFunction (.stopped frame false) flavour function.code.path))

end ScriptRun

end EventForge
