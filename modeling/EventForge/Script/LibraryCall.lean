import EventForge.Script.Library.Content

/-!
# Calls of the library

A function of the library is found by its group, which is the module or the kind of values that it
belongs to, and by its name.  A method takes a value of its kind first.  A call of a known kind makes a
value of it.
-/

namespace EventForge

namespace ScriptRun

/-- The name of the module that runs. -/
def runningModule : ScriptRun Text := do
  let mut found : Text := "__main__"
  for (name, place) in (← get).modules do
    if let .module _ names ← objectAt place then
      if (← field? names "__file__").isSome then found := name
  return found

/-- Reads a text as JSON. -/
def readJson (value : ScriptValue) : ScriptRun ScriptValue := do
  let content : Text ←
    match ← contentOf value with
    | .text content => pure content
    | .unknown => pure "null"
    | other =>
        match ← bytes? other with
        | some bytes =>
            match ← decoded bytes "utf-8" "strict" with
            | .text content => pure content
            | _ => pure []
        | none =>
            refuseType (("the JSON object must be str, bytes or bytearray, not " : Text) ++
              (← kindName value))
  match JsonText.read content with
  | .ok document => valueOfDocument maxNesting document
  | .error (.malformed fault line column position) =>
      let error : JsonError := .malformed fault line column position
      raise (← newFault (.kind "json.decoder.JSONDecodeError") [.text error.message]
        [("msg", .text fault.message), ("doc", .text content), ("pos", .integer position),
          ("lineno", .integer line), ("colno", .integer column)])
  | .error (.integer fault) => refuseValue (JsonError.message (.integer fault))
  | .error (.depth object) => refuse "RecursionError" (JsonError.message (.depth object))

/-- The functions of the module for JSON. -/
def jsonTool (name : String) (arguments : ScriptArguments) : ScriptRun ScriptValue := do
  match name, arguments.given with
  | "dumps", value :: _ =>
      return .text (← jsonIn (← jsonForm arguments.named) maxNesting 0 [] value)
  | "dump", value :: file :: _ =>
      let written ← jsonIn (← jsonForm arguments.named) maxNesting 0 [] value
      let _ ← call (← attributeOf file "write") [.text written]
      return .nothing
  | "loads", value :: _ => readJson value
  | "load", file :: _ => readJson (← call (← attributeOf file "read") [])
  | _, _ => return .unknown

/-- Refuses an enumeration in which several names have one value. -/
def requireUnique (kind : ScriptValue) : ScriptRun ScriptValue := do
  let members := (← membersOf kind).getD []
  let mut doubles : List Text := []
  if let some made ← madeKind? kind then
    for entry in (← entriesAt made.names) do
      if members.contains entry.2 then
        if let .text name := entry.1 then
          if let some found ← instance? entry.2 then
            let own ← field? found.names "_name_"
            if own != some (.text name) then
              doubles := doubles ++ [name ++ " -> " ++ (← shownText (own.getD .nothing))]
  if !doubles.isEmpty then
    refuseValue (("duplicate values found in " : Text) ++ (← displayText kind) ++ ": " ++
      Text.join ", " doubles)
  return kind

/-- Runs something that waits until it gives a value.  The fuel bounds how often it waits. -/
def finishWaiting (stream : ScriptValue) : Nat → ScriptRun ScriptValue
  | 0 => throw .exhausted
  | fuel + 1 => do
      match stream with
      | .object place =>
          match ← objectAt place with
          | .stream (.sleeping _ result _) | .stream (.given result) => return result
          | .stream (.later function given) => call function given
          | .stream (.ofFunction _ .waiting _) =>
              match ← advanceFunction place .nothing none with
              | .ended value => return value
              | _ => finishWaiting stream fuel
          | _ => refuse "ValueError" (("a coroutine was expected, got " : Text) ++
              (← displayText stream))
      | .unknown => return .unknown
      | value => refuse "ValueError" (("a coroutine was expected, got " : Text) ++
          (← displayText value))

/-- Whether a value is waited for. -/
def isWaiting (value : ScriptValue) : ScriptRun Bool := do
  match value with
  | .object place =>
      match ← objectAt place with
      | .stream (.ofFunction _ .waiting _) | .stream (.sleeping _ _ _) | .stream (.given _)
      | .stream (.later _ _) => return true
      | _ => return false
  | _ => return false

/-- Whether a call of a value gives something to wait for. -/
def isWaitingFunction (value : ScriptValue) : ScriptRun Bool := do
  let value := match value with
    | .bound function _ => function
    | value => value
  match value with
  | .object place =>
      match ← objectAt place with
      | .function function => return function.code.flavour = .waiting
      | _ => return false
  | _ => return false

/-- Makes a kind that stands for another one under a name. -/
def newAlias (name base : ScriptValue) : ScriptRun ScriptValue := do
  let made ← newClosure "typing" "alias" [name, base] false
    [("__name__", name), ("__supertype__", base)]
  return made

/-- The functions of a module. -/
def moduleFunction (group name : String) (arguments : ScriptArguments) : ScriptRun ScriptValue := do
  let given := arguments.given
  match group with
  | "" =>
      if name == "__import__" then
        let name ← textOf (given.headD .nothing) fun kind =>
          ("__import__() argument 1 must be str, not " : Text) ++ kind
        return .object (← loadModule name).1
      builtin name arguments
  | "math" => mathematics name arguments
  | "time" => timeTool name arguments
  | "json" => jsonTool name arguments
  | "collections" => newNamedTuple (← runningModule) arguments
  | "itertools" => streamTool name arguments
  | "functools" => functionTool name arguments
  | "operator" => operatorTool name arguments
  | "dataclasses" => dataTool name arguments
  | "contextlib" =>
      match name, given with
      | "__enter__", .object place :: _ =>
          match ← objectAt place with
          | .closure closure => enterClosure closure
          | _ => return .unknown
      | "__exit__", .object place :: given =>
          match ← objectAt place with
          | .closure closure => leaveClosure closure given
          | _ => return .unknown
      | _, _ => contextTool name arguments
  | "copy" => copyIn (name == "deepcopy") maxNesting (given.headD .nothing)
  | "asyncio" =>
      match name, given with
      | "run", value :: _ => finishWaiting value maxMembers
      | "iscoroutine", [value] => return .bool (← isWaiting value)
      | "iscoroutinefunction", [value] => return .bool (← isWaitingFunction value)
      | _, _ => waitingTool name arguments
  | "sqlite3" => connectDatabase arguments
  | "importlib" =>
      let name ← textOf (given.headD .nothing) fun kind =>
        ("the name must be str, not " : Text) ++ kind
      return .object (← loadModule name).2
  | "os" | "sys" => systemTool name arguments
  | "event" => callEventFunction name arguments
  | "enum" =>
      if name == "auto" then marker "enum.auto" else requireUnique (given.headD .nothing)
  | "abc" =>
      let function := given.headD .nothing
      if let .object place := function then
        if let .function _ ← objectAt place then
          setAttribute function "__isabstractmethod__" (.bool true)
      return function
  | "typing" =>
      match name, given with
      | "cast", [_, value] => return value
      | "NewType", [name, base] => newAlias name base
      | "TypeVar", _ => return .unknown
      | _, given => return given.headD .unknown
  | _ => return .unknown

/-- The groups of functions that are no methods. -/
def moduleGroups : List String := [
  "", "math", "time", "json", "collections", "itertools", "functools", "operator", "dataclasses",
  "contextlib", "copy", "asyncio", "sqlite3", "importlib", "os", "sys", "event", "enum", "abc",
  "typing"]

/-- Replaces one of the functions of a property. -/
def withPropertyPart (owner : ScriptValue) (index : Nat) (function : ScriptValue) :
    ScriptRun ScriptValue := do
  match owner with
  | .object place =>
      match ← objectAt place with
      | .wrapper .computed values =>
          let filled := values ++ List.replicate (4 - values.length) .nothing
          keepValue (.wrapper .computed (filled.set index function))
      | _ => return .unknown
  | _ => return .unknown

/-- The methods of every kind of faults. -/
def faultMethod (name : String) (owner : ScriptValue) (arguments : ScriptArguments) :
    ScriptRun ScriptValue := do
  match name, arguments.given, ← instance? owner with
  | "add_note", [note], some found =>
      match ← field? found.names "__notes__" with
      | some (.object place) =>
          changeObject place fun object =>
            match object with
            | .list items => .list (items.push note)
            | other => other
      | _ => setField found.names "__notes__" (← newList [note])
      return .nothing
  | "with_traceback", _, _ => return owner
  | _, _, _ => return .unknown

/-- The methods of a kind whose values hold content of their own. -/
def contentMethod (kind name : String) (owner content : ScriptValue)
    (arguments : ScriptArguments) : ScriptRun ScriptValue := do
  match content with
  | .integer number => integerMethod name number arguments
  | .bool truth => integerMethod name (if truth then 1 else 0) arguments
  | .float number => realMethod name number arguments
  | .text points => writingMethod { isBytes := false } name points arguments
  | .bytes bytes => writingMethod { isBytes := true } name (numberText bytes) arguments
  | .tuple items => tupleMethod "tuple" name items arguments
  | .range start stop step =>
      tupleMethod "range" name (ScriptValue.rangeItems start stop step) arguments
  | .slice start stop step =>
      let length ← indexOf (arguments.given.headD .nothing)
      let places ← slicePlaces start stop step length.toNat
      return .tuple [.integer places.start, .integer (places.start + places.count * places.step),
        .integer places.step]
  | .object place =>
      match ← objectAt place with
      | .list items =>
          if kind == "collections.deque" then queueMethod name owner place items arguments
          else listMethod name owner place items arguments
      | .mapping entries => mappingMethod name owner place entries arguments
      | .set items isFrozen => setMethod name owner place items isFrozen arguments
      | .buffer bytes =>
          match ← bufferMethod? name place bytes arguments with
          | some found => return found
          | none =>
              writingMethod { isBytes := true, isBuffer := true } name (numberText bytes) arguments
      | .view mapping part =>
          let others ← itemsOf (arguments.given.headD .nothing)
          let own ← itemsOf (← keepValue (.view mapping part))
          return .bool (← membersAmong true others own).isEmpty
      | .random _ _ => chanceMethod name place arguments
      | .connection _ => connectionMethod name place arguments
      | .cursor cursor => cursorMethod name place cursor arguments
      | .row names _ => newList (names.map .text)
      | .stream _ => streamMethod name owner arguments
      | .wrapper _ _ =>
          let function := arguments.given.headD .nothing
          withPropertyPart owner
            (if name == "getter" then 0 else if name == "setter" then 1 else 2) function
      | .marker stream =>
          match name, arguments.given with
          | "write", [content] =>
              let content ← textOf content fun kind =>
                ("write() argument must be str, not " : Text) ++ kind
              writeOutput (stream == "sys.stderr") content
              return .integer content.length
          | "isatty", _ => return .bool false
          | "read", _ | "readline", _ => return .text []
          | "readlines", _ => newList []
          | _, _ => return .nothing
      | .instance found =>
          if kind == "_io.TextIOWrapper" then fileMethod name owner found.names arguments
          else if kind == "BaseException" then faultMethod name owner arguments
          else if kind == "BaseExceptionGroup" then groupMethod name owner arguments
          else return .unknown
      | _ => return .unknown
  | _ => return .unknown

/-- Methods that take a kind and not a value of it. -/
def methodOfKind (kind name : String) (owner : ScriptValue) (arguments : ScriptArguments) :
    ScriptRun ScriptValue := do
  match name with
  | "fromkeys" => mappingOfKeys owner arguments
  | "from_bytes" => integerOfBytes arguments
  | "fromhex" =>
      match ← contentOf (arguments.given.headD .nothing) with
      | .text digits =>
          if kind == "float" then return .unknown
          return .bytes (← bytesOfHex 0 (digits.length + 1) digits)
      | _ =>
          refuseType (("fromhex() argument must be str, not " : Text) ++
            (← kindName (arguments.given.headD .nothing)))
  | _ => specialMethod name owner arguments

/-- Makes a class from its name, the classes that it is made from and its names. -/
def classOfNames (metaclass name bases names : ScriptValue) (keywords : Fields ScriptValue) :
    ScriptRun ScriptValue := do
  let name ← textOf name fun kind => ("type.__new__() argument 1 must be str, not " : Text) ++ kind
  let bases ←
    match ← contentOf bases with
    | .tuple bases => pure bases
    | _ =>
        refuseType (("type.__new__() argument 2 must be tuple, not " : Text) ++
          (← kindName bases))
  if !names.isUnknown && (← entries? (← contentOf names)).isNone then
    refuseType (("type.__new__() argument 3 must be dict, not " : Text) ++ (← kindName names))
  let entries := (← entries? (← contentOf names)).getD #[]
  let place ← keep (.mapping entries)
  let module ←
    match ← field? place "__module__" with
    | some (.text module) => pure module
    | _ =>
        let module ← runningModule
        setField place "__module__" (.text module)
        pure module
  makeClass { name, path := name, module, bases, keywords, names := place, metaclass }

/-- A new value of a kind that has not begun yet. -/
def newValue (kind : ScriptValue) (arguments : ScriptArguments) : ScriptRun ScriptValue := do
  if ← isBelow kind (.kind "type") then
    match arguments.given with
    | [name, bases, names] => classOfNames kind name bases names arguments.named
    | given =>
        refuseType (("type.__new__() takes exactly 3 arguments (" : Text) ++
          Text.ofNat given.length ++ " given)")
  else newOf kind arguments

/-- Calls a class and lets its instance begin. -/
def callPlainly (kind : ScriptValue) (arguments : ScriptArguments) : ScriptRun ScriptValue := do
  match ← callMade newValue kind arguments with
  | .value value => return value
  | .frame frame =>
      match ← resume frame none with
      | .finished value => return value
      | .stopped value _ _ => return value

/-- Calls a method of a kind of the library. -/
def callMethod (kind name : String) (arguments : ScriptArguments) : ScriptRun ScriptValue := do
  if name == "maketrans" then return ← translationTable arguments.given
  if name == "__new__" then
    let owner := arguments.given.headD .nothing
    return ← newValue owner { arguments with given := arguments.given.drop 1 }
  match arguments.given with
  | [] =>
      refuseType (("unbound method " : Text) ++ Text.ofString (KnownKind.shortName kind) ++ "." ++
        Text.ofString name ++ "() needs an argument")
  | owner :: given =>
      let arguments := { arguments with given }
      if owner.isUnknown then return .unknown
      if KnownKind.isClassMethod name then return ← methodOfKind kind name owner arguments
      if kind == "type" then
        if name == "mro" then return ← newList (← orderOf owner)
        if name == "__call__" then return ← callPlainly owner arguments
        return .unknown
      if kind != "object" && !(← isOf owner kind) then
        refuseType (("descriptor " : Text) ++ Quoted.ofText (Text.ofString name) ++ " for " ++
          Quoted.ofText (KnownKind.shownName kind) ++ " objects doesn't apply to a " ++
          Quoted.ofText (← kindName owner) ++ " object")
      let isSpecial := name.startsWith "__" && !(KnownKind.methods.any fun entry =>
        entry.1 == kind && entry.2.contains name)
      if isSpecial then specialMethod name owner arguments
      else contentMethod kind name owner (← contentOf owner) arguments

/-- Calls a function of the library. -/
def callNative (group name : String) (arguments : ScriptArguments) : ScriptRun ScriptValue := do
  if moduleGroups.contains group then moduleFunction group name arguments
  else callMethod group name arguments

/-- Makes an enumeration from a list of names. -/
def enumerationOfNames (kind name members : ScriptValue) : ScriptRun ScriptValue := do
  let name ← shownText name
  let values : Fields ScriptValue ←
    match ← entries? (← contentOf members) with
    | some entries =>
        entries.toList.mapM fun entry => do return (← shownText entry.1, entry.2)
    | none =>
        match ← contentOf members with
        | .text _ =>
            pure ((← listedMembers members).zipIdx.map fun (name, index) =>
              (name, ScriptValue.integer (index + 1)))
        | _ =>
            (← itemsOf members).zipIdx.mapM fun (member, index) => do
              match member with
              | .tuple [name, value] => return (← shownText name, value)
              | name => return (← shownText name, .integer (index + 1))
  makeClass { name, path := name, module := ← runningModule, bases := [kind]
              names := ← newFields values }

/-- Makes a value of a known kind. -/
def callKind (kind : String) (arguments : ScriptArguments) : ScriptRun ScriptValue := do
  if KnownKind.isFault kind then return ← makeFault (.kind kind) arguments
  match kind, arguments.given with
  | "type", [value] => kindOf value
  | "type", [name, bases, names] =>
      classOfNames (.kind "type") name bases names arguments.named
  | "type", _ => refuseType "type() takes 1 or 3 arguments"
  | "object", given =>
      if !given.isEmpty || !arguments.named.isEmpty then refuseType "object() takes no arguments"
      newInstance (.kind "object") .nothing []
  | "super", kind :: owner :: _ => keepValue (.above kind owner)
  | "super", _ => refuse "RuntimeError" "super(): no arguments"
  | "module", name :: _ =>
      let name ← shownText name
      keepValue (.module name (← newFields [("__name__", .text name)]))
  | "method", [function, owner] => return .bound function owner
  | "random.Random", _ => return (← newContent kind arguments).1
  | "enum.Enum", name :: members :: _ | "enum.IntEnum", name :: members :: _
  | "enum.StrEnum", name :: members :: _ | "enum.Flag", name :: members :: _ =>
      enumerationOfNames (.kind kind) name members
  | "collections.deque", _ | "collections.defaultdict", _ | "collections.Counter", _
  | "collections.OrderedDict", _ | "types.SimpleNamespace", _ => newOf (.kind kind) arguments
  | "abc.ABC", _ => newInstance (.kind kind) .nothing []
  | _, _ =>
      match ← convert? kind arguments with
      | some value => return value
      | none => return .unknown

/-- Calls a function of the library with values of its own. -/
def callClosure (place : ObjectPlace) (closure : NativeClosure) (arguments : ScriptArguments) :
    ScriptRun ScriptValue := do
  match closure.group with
  | "functools" => callFunctionTool closure place arguments
  | "operator" => callOperatorTool closure arguments
  | "dataclasses" => callDataTool closure arguments
  | "namedtuple" => callNamedTuple closure arguments
  | "contextlib" => callContextTool closure arguments
  | "errors" =>
      match closure.values with
      | .text name :: _ => beginError name arguments
      | _ => return .unknown
  | "event" => callEventMethod closure.name arguments
  | "typing" => return arguments.given.headD .unknown
  | _ => return .unknown

end ScriptRun

end EventForge
