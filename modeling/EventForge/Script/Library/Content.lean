import EventForge.Script.Builtin
import EventForge.Script.Library.Context
import EventForge.Script.Library.EventBase
import EventForge.Script.Library.JsonText
import EventForge.Script.Library.Mathematics
import EventForge.Script.Library.DataClass
import EventForge.Script.Library.StreamTool

/-!
# The content of library modules

What each module holds that a script can import, with groups of faults.
-/

namespace EventForge

/-!
## Groups of faults

A group holds faults, and groups of them.  It is split by a condition into a group of all faults for which
the condition holds and one of all others; what holds for a group as a whole holds for all in it.
-/

namespace ScriptRun

/-- The faults of a group, unless the fault is no group. -/
def groupMembers? (fault : ScriptValue) : ScriptRun (Option (List ScriptValue)) := do
  match ← instance? fault with
  | none => return none
  | some found =>
      match ← field? found.names "exceptions" with
      | some (.tuple members) =>
          return if ← isBelow found.kind (.kind "BaseExceptionGroup") then some members else none
      | _ => return none

/-- A new group of faults with a message. -/
def newGroup (message : ScriptValue) (members : List ScriptValue) : ScriptRun ScriptValue := do
  let isPlain ← members.allM fun member => isOf member "Exception"
  let kind := if isPlain then "ExceptionGroup" else "BaseExceptionGroup"
  newFault (.kind kind) [message, ← newList members]
    [("message", message), ("exceptions", .tuple members)]

/-- A group like another one of some of its faults, if there are any. -/
def groupOf? (group : ScriptValue) (members : List ScriptValue) :
    ScriptRun (Option ScriptValue) := do
  if members.isEmpty then return none
  match ← method? group "derive" with
  | some method => return some (← call method [← newList members])
  | none => return some (← newGroup ((← attribute? group "message").getD (.text [])) members)

/-- Splits a fault by a condition.  The fuel bounds how deep groups are inside each other. -/
def splitFault (holds : ScriptValue → ScriptRun Bool) :
    Nat → ScriptValue → ScriptRun (Option ScriptValue × Option ScriptValue)
  | 0, fault => return (none, some fault)
  | fuel + 1, fault => do
      if ← holds fault then return (some fault, none)
      match ← groupMembers? fault with
      | none => return (none, some fault)
      | some members =>
          let parts ← members.mapM (splitFault holds fuel)
          return (← groupOf? fault (parts.filterMap fun part => part.1),
            ← groupOf? fault (parts.filterMap fun part => part.2))

/-- The faults in a group that are no groups.  The fuel bounds how deep groups are inside each other. -/
def leavesOf : Nat → ScriptValue → ScriptRun (List ScriptValue)
  | 0, fault => return [fault]
  | fuel + 1, fault => do
      match ← groupMembers? fault with
      | none => return [fault]
      | some members => return (← members.mapM (leavesOf fuel)).flatMap id

/-- The condition that a value stands for: a kind of faults, several of them, or a function. -/
def conditionOf (value : ScriptValue) : ScriptRun (ScriptValue → ScriptRun Bool) := do
  let isKinds ←
    match value with
    | .tuple kinds => kinds.allM isKind
    | value => isKind value
  if isKinds then return fun fault => isInstanceOf maxNesting fault value
  if ← isCallable value then return fun fault => do isTrue (← call value [fault])
  refuseType "expected a function, exception type or tuple of exception types"

/-- The methods of groups. -/
def groupMethod (name : String) (owner : ScriptValue) (arguments : ScriptArguments) :
    ScriptRun ScriptValue := do
  match name, arguments.given with
  | "derive", [members] =>
      return (← groupOf? owner (← itemsOf members)).getD .nothing
  | "split", [condition] =>
      let (found, rest) ← splitFault (← conditionOf condition) maxNesting owner
      return .tuple [found.getD .nothing, rest.getD .nothing]
  | "subgroup", [condition] =>
      return (← splitFault (← conditionOf condition) maxNesting owner).1.getD .nothing
  | _, _ => return .unknown

/-- Splits what is left of a fault by kinds: what is handled, and what is left then. -/
def splitByKinds (kinds rest : ScriptValue) : ScriptRun (ScriptValue × ScriptValue) := do
  let wanted := match kinds with
    | .tuple kinds => kinds
    | kind => [kind]
  for kind in wanted do
    let isFaultKind ← if ← isKind kind then isBelow kind (.kind "BaseException") else pure false
    if !isFaultKind then
      refuseType "catching classes that do not inherit from BaseException is not allowed"
    if ← isBelow kind (.kind "BaseExceptionGroup") then
      refuseType "catching ExceptionGroup with except* is not allowed. Use except instead."
  if rest == .nothing then return (.nothing, .nothing)
  let holds (fault : ScriptValue) : ScriptRun Bool := isInstanceOf maxNesting fault kinds
  match ← groupMembers? rest with
  | some _ =>
      let (found, left) ← splitFault holds maxNesting rest
      return (found.getD .nothing, left.getD .nothing)
  | none =>
      if ← holds rest then return (← newGroup (.text []) [rest], .nothing)
      return (.nothing, rest)

/-- The fault that is left when all handlers of groups have had their turn: `fault` is the one that was
raised, `rest` what no handler took, and `raised` what the handlers raised, each with what it
handled. -/
def faultLeft? (fault rest : ScriptValue) (raised : List (ScriptValue × ScriptValue)) :
    ScriptRun (Option ScriptValue) := do
  let (again, new) := raised.partition fun entry => entry.1 == entry.2
  match ← groupMembers? fault with
  | none =>
      match new.map (fun entry => entry.1) ++ again.map fun entry => entry.1 with
      | other :: _ => return some other
      | [] => return if rest == .nothing then none else some rest
  | some _ =>
      let kept := again.map (fun entry => entry.1) ++ if rest == .nothing then [] else [rest]
      let leaves := (← kept.mapM (leavesOf maxNesting)).flatMap id
      let left ←
        if kept.isEmpty then pure none
        else do
          pure (← splitFault (fun fault => return leaves.contains fault) maxNesting fault).1
      match new.map (fun entry => entry.1) ++ left.toList with
      | [] => return none
      | [other] => return some other
      | several => return some (← newGroup (.text []) several)

end ScriptRun

/-!
## What modules of the library hold

A module binds names to functions, kinds and constants.  It is made when it is imported for the first
time, and every further import finds the same module.
-/

namespace ScriptRun

/-- Functions of a group under their names. -/
def functionsOf (group : String) (names : List String) : Fields ScriptValue :=
  names.map fun name => (Text.ofString name, .native group name)

/-- Kinds of a module, whose full names go on with the names under which it holds them. -/
def kindsOf (module : String) (names : List String) : Fields ScriptValue :=
  names.map fun name => (Text.ofString name, .kind (module ++ "." ++ name))

/-- Kinds under other names than their own. -/
def namedKinds (kinds : List (String × String)) : Fields ScriptValue :=
  kinds.map fun entry => (Text.ofString entry.1, .kind entry.2)

/-- Texts under names. -/
def textsOf (texts : List (String × String)) : Fields ScriptValue :=
  texts.map fun entry => (Text.ofString entry.1, ScriptValue.ofString entry.2)

/-- The kinds of the faults of databases. -/
def databaseFaults : List String := [
  "Warning", "Error", "DatabaseError", "DataError", "IntegrityError", "InterfaceError",
  "InternalError", "NotSupportedError", "OperationalError", "ProgrammingError"]

/-- The kinds that collections are described by. -/
def describedKinds : List String := [
  "AsyncGenerator", "AsyncIterable", "AsyncIterator", "Awaitable", "Callable", "Collection",
  "Container", "Coroutine", "Generator", "Hashable", "ItemsView", "Iterable", "Iterator",
  "KeysView", "Mapping", "MappingView", "MutableMapping", "MutableSequence", "MutableSet",
  "Reversible", "Sequence", "Sized", "ValuesView"]

def lowerLetters : String := "abcdefghijklmnopqrstuvwxyz"

def upperLetters : String := "ABCDEFGHIJKLMNOPQRSTUVWXYZ"

def blankLetters : String := " \t\n\r\x0b\x0c"

/-- Marks of ASCII. -/
def markLetters : String := "!\"#$%&'()*+,-./:;<=>?@[\\]^_`\x7b|\x7d~"

/-- The functions for paths. -/
def pathFunctions : Fields ScriptValue :=
  functionsOf "os" ["abspath", "basename", "dirname", "exists", "isdir", "isfile", "join"] ++
    textsOf [("sep", "/"), ("curdir", "."), ("pardir", ".."), ("pathsep", ":")]

/-- The functions of event modules that a module holds. -/
def eventGroup (names : List String) : Fields ScriptValue := functionsOf "event" names

/-- What a module binds to values that every module of its name binds. -/
def plainContent (module : String) : Fields ScriptValue :=
  match module with
  | "math" =>
      functionsOf "math" (realFunctions.map (fun entry => entry.1) ++ ["gcd", "lcm", "factorial",
        "isqrt", "comb", "perm", "floor", "ceil", "trunc", "log", "log2", "log10", "log1p", "pow",
        "atan2", "fmod", "copysign", "hypot", "isnan", "isinf", "isfinite", "isclose", "modf",
        "prod", "fsum"]) ++
      mathematicalNumbers.map fun entry => (Text.ofString entry.1, ScriptValue.float entry.2)
  | "time" => functionsOf "time" ["time", "time_ns", "sleep", "monotonic", "perf_counter",
      "monotonic_ns", "perf_counter_ns", "process_time", "strftime", "gmtime", "localtime"]
  | "json" =>
      functionsOf "json" ["dumps", "loads", "dump", "load"] ++
        namedKinds [("JSONDecodeError", "json.decoder.JSONDecodeError")]
  | "json.decoder" => namedKinds [("JSONDecodeError", "json.decoder.JSONDecodeError")]
  | "collections" =>
      functionsOf "collections" ["namedtuple"] ++
        kindsOf "collections" ["deque", "defaultdict", "Counter", "OrderedDict"]
  | "collections.abc" => kindsOf "collections.abc" ("Set" :: describedKinds)
  | "itertools" => functionsOf "itertools" ["count", "cycle", "repeat", "chain", "islice",
      "takewhile", "dropwhile", "filterfalse", "starmap", "accumulate", "zip_longest", "compress",
      "pairwise", "product", "permutations", "combinations", "combinations_with_replacement",
      "groupby", "tee"]
  | "functools" => functionsOf "functools" ["partial", "reduce", "cache", "lru_cache",
      "cached_property", "wraps", "update_wrapper", "cmp_to_key", "total_ordering"]
  | "operator" =>
      functionsOf "operator" (operatorTools.map (fun entry => entry.1) ++ ["itemgetter",
        "attrgetter", "methodcaller", "neg", "pos", "invert", "inv", "not_", "truth", "index",
        "is_", "is_not", "contains", "getitem", "setitem", "delitem", "concat", "countOf", "eq",
        "ne", "lt", "le", "gt", "ge"])
  | "dataclasses" =>
      functionsOf "dataclasses" ["dataclass", "field", "fields", "is_dataclass", "asdict",
        "astuple", "replace", "MISSING"] ++
      kindsOf "dataclasses" ["Field", "FrozenInstanceError", "InitVar", "KW_ONLY"]
  | "enum" =>
      kindsOf "enum" ["Enum", "Flag", "IntEnum", "IntFlag", "StrEnum"] ++
        functionsOf "enum" ["auto", "unique"]
  | "abc" => kindsOf "abc" ["ABC", "ABCMeta"] ++ functionsOf "abc" ["abstractmethod"]
  | "typing" | "typing_extensions" =>
      kindsOf "typing" (describedKinds ++ ["AbstractSet", "Annotated", "Any", "ClassVar",
        "Concatenate", "Counter", "DefaultDict", "Deque", "Dict", "Final", "FrozenSet", "Generic",
        "List", "Literal", "LiteralString", "NamedTuple", "Never", "NoReturn", "NotRequired",
        "Optional", "OrderedDict", "Protocol", "Required", "Self", "Set", "SupportsFloat",
        "SupportsIndex", "SupportsInt", "Tuple", "Type", "TypeAlias", "TypedDict", "Union"]) ++
      functionsOf "typing" ["cast", "final", "overload", "runtime_checkable", "no_type_check",
        "NewType", "TypeVar"] ++
      namedKinds [("Text", "str")] ++
      ([("TYPE_CHECKING", .bool false)] : Fields ScriptValue)
  | "contextlib" => functionsOf "contextlib" ["contextmanager", "suppress", "closing",
      "nullcontext", "asynccontextmanager", "redirect_stdout", "redirect_stderr"]
  | "copy" => functionsOf "copy" ["copy", "deepcopy"] ++ kindsOf "copy" ["Error"]
  | "asyncio" =>
      functionsOf "asyncio" ["sleep", "run", "iscoroutine", "iscoroutinefunction"] ++
        namedKinds [("CancelledError", "asyncio.exceptions.CancelledError"),
          ("InvalidStateError", "asyncio.exceptions.InvalidStateError"),
          ("QueueEmpty", "asyncio.queues.QueueEmpty"), ("QueueFull", "asyncio.queues.QueueFull"),
          ("TimeoutError", "TimeoutError")]
  | "asyncio.exceptions" =>
      kindsOf "asyncio.exceptions" ["CancelledError", "InvalidStateError"] ++
        namedKinds [("TimeoutError", "TimeoutError")]
  | "sqlite3" | "sqlite3.dbapi2" =>
      kindsOf "sqlite3" (databaseFaults ++ ["Connection", "Cursor", "Row"]) ++
        functionsOf "sqlite3" ["connect"] ++
        textsOf [("sqlite_version", "3.40.1"), ("apilevel", "2.0"), ("paramstyle", "qmark")] ++
        ([("PARSE_DECLTYPES", .integer 1), ("PARSE_COLNAMES", .integer 2)] : Fields ScriptValue)
  | "string" =>
      textsOf [("ascii_letters", lowerLetters ++ upperLetters), ("ascii_lowercase", lowerLetters),
        ("ascii_uppercase", upperLetters), ("digits", "0123456789"),
        ("hexdigits", "0123456789abcdefABCDEF"), ("octdigits", "01234567"),
        ("punctuation", markLetters), ("whitespace", blankLetters),
        ("printable", "0123456789" ++ lowerLetters ++ upperLetters ++ markLetters ++ blankLetters)]
  | "types" =>
      kindsOf "types" ["SimpleNamespace"] ++
        namedKinds [("FunctionType", "function"), ("LambdaType", "function"),
          ("MethodType", "method"), ("ModuleType", "module"), ("GeneratorType", "generator"),
          ("CoroutineType", "coroutine"), ("AsyncGeneratorType", "async_generator"),
          ("NoneType", "NoneType"), ("EllipsisType", "ellipsis"),
          ("BuiltinFunctionType", "builtin_function_or_method"),
          ("BuiltinMethodType", "builtin_function_or_method")]
  | "importlib" => functionsOf "importlib" ["import_module"]
  | "builtins" => builtinNames.filterMap fun name =>
      (known? (Text.ofString name)).map fun value => (Text.ofString name, value)
  | "os" =>
      functionsOf "os" ["getenv", "getcwd", "fspath"] ++
        textsOf [("name", "posix"), ("sep", "/"), ("linesep", "\n"), ("curdir", "."),
          ("pardir", ".."), ("pathsep", ":"), ("devnull", "/dev/null")] ++
        namedKinds [("error", "OSError")]
  | "os.path" | "posixpath" => pathFunctions
  | "sys" =>
      functionsOf "sys" ["exit", "intern", "getrecursionlimit", "exc_info", "exception"] ++
        textsOf [("platform", "linux"), ("byteorder", "little")] ++
        ([("maxsize", .integer 9223372036854775807), ("maxunicode", .integer 0x10FFFF),
          ("version_info", .tuple [.integer 3, .integer 11, .integer 10, .text "final",
            .integer 0])] : Fields ScriptValue)
  | "dbload.eventgen.runtime.codec" => eventGroup ["narrow", "coerce_nullable", "decode_row"]
  | "dbload.eventgen.runtime.generators" =>
      eventGroup ["random_int_value", "random_int64_value", "random_time_value", "now_millis",
        "get_generator"] ++
        ([("INT_VALUE_BOUND", .integer Generator.integerBound),
          ("TIME_JITTER", .integer Generator.jitter)] : Fields ScriptValue)
  | "dbload.eventgen.runtime.storage" =>
      eventGroup ["auto_migrate", "open_connection", "retry_delay"]
  | "dbload.eventgen.runtime.contract" => eventGroup ["bind_positional"]
  | _ => []

/-- The modules from which a package of event modules takes over names. -/
def eventModules : List String := ["codec", "contract", "generators", "storage"]

/-- The names that a package takes over. -/
def handedOn : List Text := [
  "Event", "bind_positional", "coerce_nullable", "decode_row", "narrow", "get_generator",
  "now_millis", "random_int_value", "random_int64_value", "random_time_value", "auto_migrate",
  "open_connection", "GENERATORS", "EventConstructor"]

/-- The module of a name, if it is loaded. -/
def loaded? (name : Text) : ScriptRun (Option ObjectPlace) := return (← get).modules.get? name

/-- Keeps a module under its name. -/
def keepModule (name : Text) (fields : Fields ScriptValue) : ScriptRun ObjectPlace := do
  let names ← newFields (("__name__", .text name) :: fields)
  let place ← keep (.module name names)
  modify fun state => { state with modules := state.modules ++ [(name, place)] }
  return place

/-- A value that stands for something outside of scripts. -/
def marker (name : String) : ScriptRun ScriptValue := keepValue (.marker name)

/-- What a module holds beside its plain content. -/
def furtherContent (load : Text → ScriptRun ObjectPlace) (module : Text) :
    ScriptRun (Fields ScriptValue) := do
  match module.toString with
  | "sys" =>
      let modules ← newMapping ((← get).modules.map fun entry =>
        (ScriptValue.text entry.1, .object entry.2))
      return [("modules", modules), ("argv", ← newList [.unknown]),
        ("stdin", ← marker "sys.stdin"), ("stdout", ← marker "sys.stdout"),
        ("stderr", ← marker "sys.stderr")]
  | "os" =>
      let environment ← newMapping ((← get).environment.map fun entry =>
        (ScriptValue.text entry.1, .text entry.2))
      return [("environ", environment), ("path", .object (← load "os.path"))]
  | "random" =>
      let source ← keepValue (.random (RandomSource.ofSeed 0) none)
      let names := ((KnownKind.methods.find? fun entry => entry.1 == "random.Random").map
        fun entry => entry.2).getD []
      return ("Random", .kind "random.Random") :: names.map fun name =>
        (Text.ofString name, .bound (.native "random.Random" name) source)
  | "dbload.eventgen.errors" => errorClasses [] ErrorClass.all
  | "dbload.eventgen.runtime.contract" =>
      let _ ← load "dbload.eventgen.errors"
      return [("Event", ← newEventClass), ("EventConstructor", .unknown)]
  | "dbload.eventgen.runtime.storage" =>
      let errors ← load "dbload.eventgen.errors"
      let kinds ← ["ConnectionError", "MigrationError"].mapM fun name => do
        return (Text.ofString name, ← attributeOf (.object errors) (Text.ofString name))
      let delays : Fields ScriptValue :=
        [("DEFAULT_RETRY_DELAY", .float 1), ("DEFAULT_RETRY_STEP", .float 5)]
      return kinds ++ delays
  | "dbload.eventgen.runtime.generators" =>
      let generators ← newMapping (Generator.all.map fun generator =>
        (ScriptValue.text generator.name, .native "event" generator.name.toString))
      return [("GENERATORS", generators)]
  | "dbload.eventgen.runtime" =>
      let mut found : Fields ScriptValue := []
      for inner in eventModules do
        let place ← load (("dbload.eventgen.runtime." : Text) ++ Text.ofString inner)
        found := found ++ [(Text.ofString inner, .object place)]
        for name in handedOn do
          if let .module _ names ← objectAt place then
            if let some value ← field? names name then found := found ++ [(name, value)]
      return found
  | _ => return []

/-- The module of a name.  The fuel bounds how many modules import each other. -/
def loadIn : Nat → Text → ScriptRun ObjectPlace
  | 0, name => keepModule name []
  | fuel + 1, name => do
      match ← loaded? name with
      | some place => return place
      | none =>
          let further ← furtherContent (loadIn fuel) name
          match ← loaded? name with
          | some place => return place
          | none => keepModule name (plainContent name.toString ++ further)

/-- The names of a dotted name, each with those in front of it. -/
def stepsOf (above : Text) : List Text → List (Text × Text)
  | [] => []
  | part :: parts =>
      let name := if above.isEmpty then part else above ++ "." ++ part
      (name, part) :: stepsOf name parts

/-- Loads the modules that a dotted name leads through: gives the first and the last of them. -/
def loadModule (name : Text) : ScriptRun (ObjectPlace × ObjectPlace) := do
  let own ← loaded? name
  match own with
  | some place =>
      let first := ((name.splitAt '.').head?).getD name
      return ((← loaded? first).getD place, place)
  | none =>
      match ModuleLibrary.absence? name with
      | some absence =>
          let missing : Text := match absence with
            | .missing name => name
            | .below name _ => name
          raise (← newFault (.kind "ModuleNotFoundError") [.text absence.message]
            [("name", .text missing)])
      | none =>
          let mut first : Option ObjectPlace := none
          let mut last : Option ObjectPlace := none
          for (full, part) in stepsOf [] (name.splitAt '.') do
            let place ← loadIn 8 full
            if let some above := last then
              if let .module _ names ← objectAt above then setField names part (.object place)
            first := some (first.getD place)
            last := some place
          return (first.getD 0, last.getD 0)

/-- What a module that is there gives under a name: what it binds, or a module in it. -/
def importedName (place : ObjectPlace) (name : Text) : ScriptRun ScriptValue := do
  let .module moduleName names ← objectAt place | return .unknown
  match ← field? names name with
  | some value => return value
  | none =>
      let inner := moduleName ++ "." ++ name
      if ModuleLibrary.holds inner then return .object (← loadModule inner).2
      match ← attribute? (.object place) name with
      | some value => return value
      | none =>
          let source : Text ←
            match ← field? names "__file__" with
            | some (.text path) => pure path
            | _ => pure "unknown location"
          raise (← newFault (.kind "ImportError")
            [.text (("cannot import name " : Text) ++ Quoted.ofText name ++ " from " ++
              Quoted.ofText moduleName ++ " (" ++ source ++ ")")]
            [("name", .text moduleName)])

/-- The names that a module hands on to those that import all of it. -/
def publicNames (place : ObjectPlace) : ScriptRun (Fields ScriptValue) := do
  let .module _ names ← objectAt place | return []
  match ← field? names "__all__" with
  | some listed =>
      (← itemsOf listed).mapM fun name => do
        let name ← shownText name
        return (name, ← attributeOf (.object place) name)
  | none =>
      return (← entriesAt names).toList.filterMap fun entry =>
        match entry.1 with
        | .text name => if name.startsWith "_" then none else some (name, entry.2)
        | _ => none

end ScriptRun

end EventForge
