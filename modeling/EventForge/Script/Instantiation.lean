import EventForge.Script.Binding
import EventForge.Script.Conversion

/-!
# Instances

A call of a class makes an instance and lets the class begin it.  An instance of a class below a
kind of the library also is a value of that kind.  Faults keep the arguments that they are made
from.
-/

namespace EventForge

namespace ScriptRun

/-- The numbers of faults of the system, with their kinds. -/
def systemKinds : List (Int × String) := [
  (1, "PermissionError"), (2, "FileNotFoundError"), (3, "ProcessLookupError"),
  (4, "InterruptedError"), (10, "ChildProcessError"), (11, "BlockingIOError"),
  (13, "PermissionError"), (17, "FileExistsError"), (20, "NotADirectoryError"),
  (21, "IsADirectoryError"), (32, "BrokenPipeError"), (104, "ConnectionResetError"),
  (110, "TimeoutError"), (111, "ConnectionRefusedError")]

/-- The known kind of a fault of the system with a number. -/
def systemKind (kind : ScriptValue) (arguments : List ScriptValue) : ScriptValue :=
  match kind, arguments with
  | .kind "OSError", .integer number :: _ :: _ =>
      match systemKinds.find? fun entry => entry.1 == number with
      | some entry => .kind entry.2
      | none => kind
  | kind, _ => kind

/-- The names that the arguments of some kinds of faults can have. -/
def namesOfFault (kinds : List ScriptValue) : List Text :=
  if kinds.contains (.kind "ImportError") then ["name", "path"]
  else if kinds.contains (.kind "AttributeError") then ["name", "obj"]
  else if kinds.contains (.kind "NameError") then ["name"]
  else []

/-- Makes a group of faults. -/
def makeGroup (kind : ScriptValue) (kinds : List ScriptValue) (given : List ScriptValue) :
    ScriptRun ScriptValue := do
  match given with
  | [message, source] =>
      match ← contentOf message with
      | .text _ => pure ()
      | _ => refuseType (("BaseExceptionGroup.__new__() argument 1 must be str, not " : Text) ++ (← kindName message))
      if !(← method? source "__getitem__").isSome && (← plainSize? (← contentOf source)).isNone then
        refuseType "second argument (exceptions) must be a sequence"
      let members ← itemsOf source
      if members.isEmpty then
        refuseValue "second argument (exceptions) must be a non-empty sequence"
      for (member, index) in members.zipIdx do
        if !(← isFault member) then
          refuseValue (("Item " : Text) ++ Text.ofNat index ++
            " of second argument (exceptions) is not an exception")
      let isPlain ← members.allM fun member => isOf member "Exception"
      if !isPlain && kinds.contains (.kind "Exception") then
        if kind == .kind "ExceptionGroup" then
          refuseType "Cannot nest BaseExceptions in an ExceptionGroup"
        refuseType (("Cannot nest BaseExceptions in " : Text) ++ Quoted.ofText (← nameOfKind kind))
      let kind :=
        if isPlain && kind == .kind "BaseExceptionGroup" then .kind "ExceptionGroup" else kind
      newFault kind given [("message", message), ("exceptions", .tuple members)]
  | given =>
      refuseType (("BaseExceptionGroup.__new__() takes exactly 2 arguments (" : Text) ++
        Text.ofNat given.length ++ " given)")

/-- Makes a fault. -/
def makeFault (kind : ScriptValue) (arguments : ScriptArguments) : ScriptRun ScriptValue := do
  let kinds ← orderOf kind
  let isOwn := (← madeMember? kind "__init__").isSome || (← madeMember? kind "__new__").isSome
  let names := namesOfFault kinds
  let isLibrary := kinds.any fun other =>
    match other with
    | .kind name => name.startsWith "dbload."
    | _ => false
  if !isOwn && !isLibrary then
    for (name, _) in arguments.named do
      if !names.contains name then
        let kindName ← nameOfKind kind
        if names.isEmpty then refuseType (kindName ++ "() takes no keyword arguments")
        refuseType (Quoted.ofText name ++ " is an invalid keyword argument for " ++ kindName ++
          "()")
  let isUnicode := kinds.contains (.kind "UnicodeDecodeError") ||
    kinds.contains (.kind "UnicodeEncodeError")
  if isUnicode && !isOwn && arguments.given.length ≠ 5 then
    refuseType (("function takes exactly 5 arguments (" : Text) ++
      Text.ofNat arguments.given.length ++ " given)")
  let given := arguments.given
  if kinds.contains (.kind "BaseExceptionGroup") then return ← makeGroup kind kinds given
  let kind := systemKind kind given
  let isSystem := kinds.contains (.kind "OSError") && 3 ≤ given.length && given.length ≤ 5
  let fields : Fields ScriptValue :=
    if isSystem then [("filename", given.getD 2 .nothing)]
    else arguments.named.filter fun field => names.contains field.1
  newFault kind (if isSystem then given.take 2 else given) fields

/-- The content of a new value of a known kind, with the attributes that go with it. -/
def newContent (root : String) (arguments : ScriptArguments) :
    ScriptRun (ScriptValue × Fields ScriptValue) := do
  match root with
  | "collections.deque" =>
      let places ← namedArguments "deque" ["iterable", "maxlen"] 0 arguments
      let limit := argument places 1 .nothing
      let items ←
        match argument places 0 .nothing with
        | .nothing => pure []
        | source => itemsOf source
      let kept := match limit with
        | .integer limit => items.drop (items.length - limit.toNat)
        | _ => items
      return (← newList kept, [("maxlen", limit)])
  | "collections.defaultdict" =>
      let factory := arguments.given.headD .nothing
      let place ← mappingFrom "dict" { arguments with given := arguments.given.drop 1 }
      return (.object place, [("default_factory", factory)])
  | "collections.Counter" =>
      let place ← keep (.mapping #[])
      addCounts place 1 arguments
      return (.object place, [])
  | "collections.OrderedDict" => return (.object (← mappingFrom "dict" arguments), [])
  | "types.SimpleNamespace" => return (.nothing, arguments.named)
  | "random.Random" =>
      let seed ←
        match arguments.given with
        | seed :: _ => pure ((← contentOf seed).integer?.getD 0)
        | [] => pure 0
      return (← keepValue (.random (RandomSource.ofSeed seed) none), [])
  | root =>
      match ← convert? root arguments with
      | some content => return (content, [])
      | none => return (.nothing, [])

/-- Kinds whose values are begun when they are empty. -/
def changingKinds : List String := [
  "list", "dict", "set", "bytearray", "collections.deque", "collections.defaultdict",
  "collections.Counter", "collections.OrderedDict", "types.SimpleNamespace"]

/-- The first known kind that a kind belongs to, apart from the kind of all values. -/
def rootOf (kind : ScriptValue) : ScriptRun (Option String) := do
  return (← orderOf kind).findSome? fun other =>
    match other with
    | .kind name => if name == "object" then none else some name
    | _ => none

/-- A new instance of a kind that has not begun yet. -/
def newOf (kind : ScriptValue) (arguments : ScriptArguments) : ScriptRun ScriptValue := do
  match ← rootOf kind with
  | none => newInstance kind .nothing []
  | some root =>
      if KnownKind.isFault root then makeFault kind arguments
      else
        let isBegun := (← madeMember? kind "__init__").isSome
        let arguments := if isBegun && changingKinds.contains root then {} else arguments
        let (content, fields) ← newContent root arguments
        newInstance kind content fields

/-- What begins an instance where its class says nothing about it. -/
def beginPlainly (owner : ScriptValue) (arguments : ScriptArguments) : ScriptRun Unit := do
  match ← instance? owner, owner with
  | some found, .object place =>
      match ← rootOf found.kind with
      | none =>
          if !arguments.given.isEmpty || !arguments.named.isEmpty then
            let isBegun := (← madeMember? found.kind "__init__").isSome
            if isBegun then
              refuseType
                "object.__init__() takes exactly one argument (the instance to initialize)"
            else refuseType ((← nameOfKind found.kind) ++ "() takes no arguments")
      | some root =>
          if KnownKind.isFault root then
            if !arguments.named.isEmpty && (namesOfFault (← orderOf found.kind)).isEmpty then
              refuseType ((← nameOfKind found.kind) ++ "() takes no keyword arguments")
            setObject place (.instance { found with content := .tuple arguments.given })
          else if changingKinds.contains root then
            let (content, fields) ← newContent root arguments
            setObject place (.instance { found with content })
            fields.forM fun field => setField found.names field.1 field.2
  | _, _ => return ()

/-- Refuses an instance of a class that leaves some of its methods to others. -/
def requireComplete (kind : ScriptValue) : ScriptRun Unit := do
  match ← madeMember? kind "__abstractmethods__" with
  | some (.tuple (first :: others)) =>
      let names ← (first :: others).mapM shownText
      refuseType (("Can't instantiate abstract class " : Text) ++ (← nameOfKind kind) ++
        " with abstract method" ++ (if others.isEmpty then ([] : Text) else "s") ++ " " ++
        Text.join ", " names)
  | _ => return ()

/-- The member of an enumeration with a value. -/
def memberWithValue (kind value : ScriptValue) : ScriptRun ScriptValue := do
  let members := (← membersOf kind).getD []
  for member in members do
    if member.same value then return member
    if let some found ← instance? member then
      if let some inner ← field? found.names "_value_" then
        if ← alike inner value then return member
  match ← madeMember? kind "_missing_" with
  | some member =>
      let found ← call (← bindMember member none kind) [value]
      if found != .nothing then return found
  | none => pure ()
  refuseValue ((← displayText value) ++ " is not a valid " ++ (← pathOfKind kind))

/-- Lets the class of an instance begin it. -/
def beginInstance (kind made : ScriptValue) (arguments : ScriptArguments) :
    ScriptRun Prepared := do
  match ← member? kind "__init__" with
  | some (.object place) =>
      match ← objectAt place with
      | .function function =>
          let arguments := { arguments with given := made :: arguments.given }
          match ← startFunction function arguments with
          | .frame frame => return .frame { frame with ending := .instance made }
          | .value _ => refuseType "__init__() should return None, not 'coroutine'"
      | _ =>
          let _ ← callWith (← bindMember (.object place) (some made) kind) arguments
          return .value made
  | some (.native "object" _) =>
      let isNew := (← madeMember? kind "__new__").isSome
      if (← rootOf kind).isNone && !isNew then beginPlainly made arguments
      return .value made
  | some member =>
      let _ ← callWith (.bound member made) arguments
      return .value made
  | none => return .value made

/-- Calls a class; `new` makes a value of it that has not begun yet. -/
def callMade (new : ScriptValue → ScriptArguments → ScriptRun ScriptValue) (kind : ScriptValue)
    (arguments : ScriptArguments) : ScriptRun Prepared := do
  let order ← orderOf kind
  if order.contains (.kind "enum.Enum") && !((← membersOf kind).getD []).isEmpty then
    return .value (← memberWithValue kind (arguments.given.headD .nothing))
  requireComplete kind
  match ← madeMember? kind "__new__" with
  | none => beginInstance kind (← new kind arguments) arguments
  | some maker =>
      let maker ← bindMember maker none kind
      let made ← callWith maker { arguments with given := kind :: arguments.given }
      if ← isBelow (← kindOf made) kind then beginInstance kind made arguments
      else return .value made

end ScriptRun

end EventForge
