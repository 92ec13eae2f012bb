import EventForge.Module.Library
import EventForge.Script.KnownKind
import EventForge.Script.Object

/-!
# Kinds and attributes

An attribute of a value is looked for among its own names and in the classes that it belongs to, in
their order.  A function found in a class takes the value as its first argument.
-/

namespace EventForge

namespace ScriptRun

/-- A new instance of a kind of faults with arguments. -/
def newFault (kind : ScriptValue) (arguments : List ScriptValue) (fields : Fields ScriptValue) :
    ScriptRun ScriptValue := do
  keepValue (.instance { kind, names := ← newFields fields, content := .tuple arguments })

/-- Raises a fault of a known kind with arguments. -/
def raiseWith {Value : Type} (kind : String) (arguments : List ScriptValue) : ScriptRun Value := do
  raise (← newFault (.kind kind) arguments [])

/-- Raises a fault of a known kind with a message. -/
def refuse {Value : Type} (kind : String) (message : Text) : ScriptRun Value :=
  raiseWith kind [.text message]

def refuseType {Value : Type} (message : Text) : ScriptRun Value := refuse "TypeError" message

def refuseValue {Value : Type} (message : Text) : ScriptRun Value := refuse "ValueError" message

/-- The kind of a stream. -/
def streamKind : Stream → String
  | .values _ => "tuple_iterator"
  | .ofList _ _ => "list_iterator"
  | .counting _ _ _ => "range_iterator"
  | .ofMapping _ _ _ .key => "dict_keyiterator"
  | .ofMapping _ _ _ .value => "dict_valueiterator"
  | .ofMapping _ _ _ .both => "dict_itemiterator"
  | .ofSet _ _ _ => "set_iterator"
  | .ofFunction _ .stream _ => "generator"
  | .ofFunction _ .waitingStream _ => "async_generator"
  | .ofFunction _ _ _ => "coroutine"
  | .indexed _ _ => "iterator"
  | .mapped _ _ => "map"
  | .chosen true _ _ => "filter"
  | .chosen false _ _ => "itertools.filterfalse"
  | .zipped _ _ => "zip"
  | .zippedLongest _ _ => "itertools.zip_longest"
  | .numbered _ _ => "enumerate"
  | .calling _ _ => "callable_iterator"
  | .chained _ _ => "itertools.chain"
  | .counted _ _ => "itertools.count"
  | .cycled _ _ _ => "itertools.cycle"
  | .repeated _ _ => "itertools.repeat"
  | .sliced _ _ _ _ _ => "itertools.islice"
  | .takenWhile _ _ _ => "itertools.takewhile"
  | .droppedWhile _ _ _ => "itertools.dropwhile"
  | .accumulated _ _ _ _ => "itertools.accumulate"
  | .starred _ _ => "itertools.starmap"
  | .sleeping _ _ _ | .given _ | .later _ _ => "coroutine"
  | .rows _ => "iterator"

/-- The kind of an object, unless it is an instance. -/
def objectKind : ScriptObject → String
  | .list _ => "list"
  | .mapping _ => "dict"
  | .set _ isFrozen => if isFrozen then "frozenset" else "set"
  | .buffer _ => "bytearray"
  | .scope _ _ => "object"
  | .function _ => "function"
  | .closure closure => if closure.binds then "function" else closure.group ++ "." ++ closure.name
  | .madeKind _ => "type"
  | .instance _ => "object"
  | .wrapper .ofClass _ => "classmethod"
  | .wrapper .ofNothing _ => "staticmethod"
  | .wrapper .computed _ => "property"
  | .stream stream => streamKind stream
  | .module _ _ => "module"
  | .view _ .key => "dict_keys"
  | .view _ .value => "dict_values"
  | .view _ .both => "dict_items"
  | .random _ _ => "random.Random"
  | .connection _ => "sqlite3.Connection"
  | .cursor _ => "sqlite3.Cursor"
  | .row _ _ => "sqlite3.Row"
  | .above _ _ => "super"
  | .marker name => name

/-- The instance that a value is, if it is one. -/
def instance? (value : ScriptValue) : ScriptRun (Option ScriptInstance) := do
  match value with
  | .object place =>
      match ← objectAt place with
      | .instance found => return some found
      | _ => return none
  | _ => return none

def madeKind? (value : ScriptValue) : ScriptRun (Option MadeKind) := do
  match value with
  | .object place =>
      match ← objectAt place with
      | .madeKind found => return some found
      | _ => return none
  | _ => return none

/-- The kind of a value. -/
def kindOf (value : ScriptValue) : ScriptRun ScriptValue := do
  match value with
  | .object place =>
      match ← objectAt place with
      | .instance found => return found.kind
      | .madeKind made => return made.metaclass
      | object => return .kind (objectKind object)
  | .kind name => return .kind (KnownKind.metaclass name)
  | value => return .kind value.plainKind

/-- The name of a kind in messages. -/
def nameOfKind (kind : ScriptValue) : ScriptRun Text := do
  match kind with
  | .kind name => return KnownKind.shownName name
  | kind => return ((← madeKind? kind).map fun found => found.name).getD "object"

/-- The name of the kind of a value in messages. -/
def kindName (value : ScriptValue) : ScriptRun Text := do nameOfKind (← kindOf value)

/-- A kind with all that it belongs to, in the order in which attributes are looked for. -/
def orderOf (kind : ScriptValue) : ScriptRun (List ScriptValue) := do
  match kind with
  | .kind name => return (KnownKind.order name).map .kind
  | kind => return ((← madeKind? kind).map fun found => found.order).getD [.kind "object"]

/-- Whether a kind belongs to another one. -/
def isBelow (kind other : ScriptValue) : ScriptRun Bool := do
  return (← orderOf kind).contains other

/-- Whether a value is of a known kind. -/
def isOf (value : ScriptValue) (kind : String) : ScriptRun Bool := do
  isBelow (← kindOf value) (.kind kind)

/-- Whether a value is a kind. -/
def isKind (value : ScriptValue) : ScriptRun Bool := do
  match value with
  | .kind _ => return true
  | value => return (← madeKind? value).isSome

/-- The value of a kind of the library that a value is. -/
def contentOf (value : ScriptValue) : ScriptRun ScriptValue := do
  match ← instance? value with
  | some found =>
      match found.content with
      | .nothing => return value
      | .tuple _ => return if ← isBelow found.kind (.kind "BaseException") then value else found.content
      | content => return content
  | none => return value

/-- What a kind has under a name, without the kinds that it belongs to. -/
def ownMember? (kind : ScriptValue) (name : Text) : ScriptRun (Option ScriptValue) := do
  match kind with
  | .kind known =>
      let found := name.toString
      return if KnownKind.hasOwnMethod known found then some (.native known found) else none
  | kind =>
      match ← madeKind? kind with
      | some made => field? made.names name
      | none => return none

/-- The first of some kinds that has something under a name, with what it has. -/
def memberIn? (name : Text) : List ScriptValue → ScriptRun (Option ScriptValue)
  | [] => return none
  | kind :: kinds => do
      match ← ownMember? kind name with
      | some found => return some found
      | none => memberIn? name kinds

/-- What a kind or one that it belongs to has under a name. -/
def member? (kind : ScriptValue) (name : Text) : ScriptRun (Option ScriptValue) := do
  memberIn? name (← orderOf kind)

/-- What a class that a script made has under a name, or one that it belongs to. -/
def madeMember? (kind : ScriptValue) (name : Text) : ScriptRun (Option ScriptValue) := do
  let made := (← orderOf kind).filter fun other =>
    match other with
    | .object _ => true
    | _ => false
  memberIn? name made

/-- The class of a value, if a script has made it. -/
def madeKindOf? (value : ScriptValue) : ScriptRun (Option ScriptValue) := do
  match value with
  | .object place =>
      match ← objectAt place with
      | .instance found => return some found.kind
      | .madeKind made =>
          match made.metaclass with
          | .object _ => return some made.metaclass
          | _ => return none
      | _ => return none
  | _ => return none

/-- The special method that a class gives its instances. -/
def method? (value : ScriptValue) (name : Text) : ScriptRun (Option ScriptValue) := do
  match ← madeKindOf? value with
  | none => return none
  | some kind =>
      match ← madeMember? kind name with
      | none => return none
      | some method =>
          match method with
          | .object place =>
              match ← objectAt place with
              | .function _ => return some (.bound method value)
              | .closure closure =>
                  return some (if closure.binds then .bound method value else method)
              | .wrapper .ofClass (function :: _) => return some (.bound function kind)
              | .wrapper .ofNothing (function :: _) => return some function
              | _ => return some method
          | .native _ _ => return some (.bound method value)
          | method => return some method

/-- The members of an enumeration, in order. -/
def membersOf (kind : ScriptValue) : ScriptRun (Option (List ScriptValue)) := do
  match ← madeKind? kind with
  | none => return none
  | some made =>
      if !made.order.contains (.kind "enum.Enum") then return none
      let mut found : Array ScriptValue := #[]
      for entry in (← entriesAt made.names) do
        if let some member ← instance? entry.2 then
          let isAlias := found.contains entry.2
          if member.kind == kind && !isAlias then found := found.push entry.2
      return some found.toList

/-- What an attribute of a class is for an instance of it, or for the class itself. -/
def bindMember (member : ScriptValue) (owner : Option ScriptValue) (kind : ScriptValue) :
    ScriptRun ScriptValue := do
  match member with
  | .native _ name =>
      if KnownKind.isClassMethod name then return .bound member kind
      if KnownKind.isFreeMethod name then return member
      return (owner.map (.bound member ·)).getD member
  | .object place =>
      match ← objectAt place with
      | .function _ => return (owner.map (.bound member ·)).getD member
      | .closure closure =>
          return if closure.binds then (owner.map (.bound member ·)).getD member else member
      | .wrapper .ofClass (function :: _) => return .bound function kind
      | .wrapper .ofNothing (function :: _) => return function
      | .wrapper .computed (getter :: _) =>
          match owner with
          | some owner =>
              if getter == .nothing then
                refuse "AttributeError" "property has no getter"
              call getter [owner]
          | none => return member
      | .instance found =>
          match ← madeMember? found.kind "__get__" with
          | some getter => call getter [member, owner.getD .nothing, kind]
          | none => return member
      | _ => return member
  | member => return member

/-- Whether an attribute of a class stands in front of those of its instances. -/
def isLeading (member : ScriptValue) : ScriptRun Bool := do
  match member with
  | .object place =>
      match ← objectAt place with
      | .wrapper .computed _ => return true
      | .instance found =>
          return (← madeMember? found.kind "__set__").isSome ||
            (← madeMember? found.kind "__delete__").isSome
      | _ => return false
  | _ => return false

/-- Refuses an attribute that is not there. -/
def refuseAttribute {Value : Type} (owner name : Text) (value : ScriptValue) : ScriptRun Value := do
  raise (← newFault (.kind "AttributeError")
    [.text (owner ++ " has no attribute " ++ Quoted.ofText name)]
    [("name", .text name), ("obj", value)])

def isFault (value : ScriptValue) : ScriptRun Bool := isOf value "BaseException"

/-- An attribute that faults have. -/
def faultAttribute? (found : ScriptInstance) (name : Text) : Option ScriptValue :=
  if name = ("args" : Text) then some found.content
  else if name = ("__cause__" : Text) then some found.links.cause
  else if name = ("__context__" : Text) then some found.links.context
  else if name = ("__suppress_context__" : Text) then some (.bool found.links.suppressed)
  else if name = ("__traceback__" : Text) then some .nothing
  else none

/-- The arguments of a fault by the names that its kind gives them. -/
def faultArgument? (kinds : List ScriptValue) (arguments : List ScriptValue) (name : Text) :
    Option ScriptValue :=
  let isOf (kind : String) : Bool := kinds.contains (.kind kind)
  let named (names : List String) : Option ScriptValue :=
    match names.findIdx? fun found => Text.ofString found = name with
    | some index => some (arguments.getD index .nothing)
    | none => none
  if isOf "StopIteration" then named ["value"]
  else if isOf "SystemExit" then
    if name = ("code" : Text) then
      match arguments with
      | [] => some .nothing
      | [code] => some code
      | several => some (.tuple several)
    else none
  else if isOf "OSError" && 2 ≤ arguments.length then named ["errno", "strerror", "filename"]
  else if isOf "OSError" && (["errno", "strerror", "filename"].any fun found =>
      Text.ofString found = name) then some .nothing
  else if isOf "UnicodeDecodeError" || isOf "UnicodeEncodeError" then
    named ["encoding", "object", "start", "end", "reason"]
  else if isOf "SyntaxError" then named ["msg"]
  else if isOf "ImportError" && name = ("msg" : Text) then some (arguments.headD .nothing)
  else if ((isOf "ImportError" || isOf "NameError" || isOf "AttributeError") &&
      name = ("name" : Text)) || (isOf "ImportError" && name = ("path" : Text)) ||
      (isOf "AttributeError" && name = ("obj" : Text)) then some .nothing
  else none

/-- An attribute of every kind. -/
def kindAttribute? (kind : ScriptValue) (name : Text) : ScriptRun (Option ScriptValue) := do
  let made ← madeKind? kind
  let known : String :=
    match kind with
    | .kind known => known
    | _ => ""
  if name = ("__name__" : Text) then
    return some (.text ((made.map fun made => made.name).getD
      (Text.ofString (KnownKind.shortName known))))
  if name = ("__qualname__" : Text) then
    return some (.text ((made.map fun made => made.path).getD
      (Text.ofString (KnownKind.shortName known))))
  if name = ("__module__" : Text) then
    return some (.text ((made.map fun made => made.module).getD
      (Text.ofString (KnownKind.moduleName known))))
  if name = ("__mro__" : Text) then return some (.tuple (← orderOf kind))
  if name = ("__bases__" : Text) then
    return some (.tuple ((made.map fun made => made.bases).getD
      (((KnownKind.order known).drop 1).take 1 |>.map .kind)))
  if name = ("__base__" : Text) then
    return some ((made.bind fun made => made.bases.head?).getD
      (((KnownKind.order known).drop 1).head?.map .kind |>.getD .nothing))
  if name = ("__dict__" : Text) then
    match made with
    | some made => return some (.object made.names)
    | none => return some (← newMapping [])
  if name = ("__class__" : Text) then return some (← kindOf kind)
  if name = ("__doc__" : Text) then
    match made with
    | some made => return some ((← field? made.names name).getD .nothing)
    | none => return some .unknown
  if name = ("mro" : Text) then return some (.bound (.native "type" "mro") kind)
  if name = ("__subclasses__" : Text) then
    return some (.bound (.native "type" "__subclasses__") kind)
  if name = ("__annotations__" : Text) && made.isSome then
    return some (← newMapping [])
  return none

/-- What the class of a class has under a name, and whether it stands in front of what the class
has itself. -/
def metaclassMember? (kind : ScriptValue) (name : Text) :
    ScriptRun (Option (ScriptValue × Bool)) := do
  match ← madeKindOf? kind with
  | none => return none
  | some metaclass =>
      match ← madeMember? metaclass name with
      | some member => return some (member, ← isLeading member)
      | none => return none

/-- The attribute of a kind that only its class has. -/
def attributeByMetaclass (kind : ScriptValue) (name : Text) : ScriptRun ScriptValue := do
  let metaclass ← kindOf kind
  match ← member? metaclass name with
  | some member => bindMember member (some kind) metaclass
  | none =>
      match ← method? kind "__getattr__" with
      | some getter => call getter [.text name]
      | none =>
          if metaclass == .kind "enum.EnumType" then refuse "AttributeError" name
          refuseAttribute (("type object " : Text) ++ Quoted.ofText (← nameOfKind kind)) name kind

/-- The attribute of a kind. -/
def attributeOfKind (kind : ScriptValue) (name : Text) : ScriptRun ScriptValue := do
  let metaclass ← metaclassMember? kind name
  if let some (member, true) := metaclass then
    return ← bindMember member (some kind) (← kindOf kind)
  let isOwn := name = ("__name__" : Text) || name = ("__qualname__" : Text) ||
    name = ("__mro__" : Text) || name = ("__bases__" : Text) || name = ("__dict__" : Text) ||
    name = ("__class__" : Text)
  let own ← if isOwn then kindAttribute? kind name else pure none
  match own with
  | some found => return found
  | none =>
      match ← member? kind name with
      | some member =>
          bindMember member none kind
      | none =>
          match ← kindAttribute? kind name with
          | some found => return found
          | none => attributeByMetaclass kind name

/-- An attribute of a function. -/
def functionAttribute? (function : ScriptFunction) (name : Text) :
    ScriptRun (Option ScriptValue) := do
  match ← field? function.names name with
  | some found => return some found
  | none =>
      let code := function.code
      if name = ("__name__" : Text) then return some (.text code.name)
      if name = ("__qualname__" : Text) then return some (.text code.path)
      if name = ("__doc__" : Text) then
        return some ((code.description.map .text).getD .nothing)
      if name = ("__module__" : Text) then
        return some ((← field? function.globals "__name__").getD .nothing)
      if name = ("__dict__" : Text) then return some (.object function.names)
      if name = ("__globals__" : Text) then return some (.object function.globals)
      if name = ("__annotations__" : Text) then return some (← newMapping [])
      if name = ("__defaults__" : Text) then
        let plain := code.parameters.filterMap fun parameter =>
          if parameter.shape = .plain || parameter.shape = .placed then
            Fields.get? function.defaults parameter.name
          else none
        return some (if plain.isEmpty then .nothing else .tuple plain)
      if name = ("__kwdefaults__" : Text) then
        let named := code.parameters.filterMap fun parameter =>
          if parameter.shape = .named then
            (Fields.get? function.defaults parameter.name).map fun value =>
              (ScriptValue.text parameter.name, value)
          else none
        if named.isEmpty then return some .nothing
        return some (← newMapping named)
      return none

/-- Attributes of values of which nothing more is known. -/
def isCommonAttribute (name : Text) : Bool :=
  name.startsWith "__" && name.endsWith "__"

/-- The mark of a function inside a wrapper that its class leaves to others. -/
def abstractMark? (values : List ScriptValue) : ScriptRun (Option ScriptValue) := do
  match values with
  | .object inner :: _ =>
      match ← objectAt inner with
      | .function function => field? function.names "__isabstractmethod__"
      | _ => return none
  | _ => return none

/-- An attribute of an object that is no instance. -/
def objectAttribute? (place : ObjectPlace) (object : ScriptObject) (name : Text) :
    ScriptRun (Option ScriptValue) := do
  match object with
  | .function function => functionAttribute? function name
  | .closure closure =>
      match ← field? closure.names name with
      | some found => return some found
      | none =>
          if closure.group == "functools" && closure.name == "partial" then
            match closure.values with
            | function :: given :: named :: _ =>
                if name = ("func" : Text) then return some function
                if name = ("args" : Text) then return some given
                if name = ("keywords" : Text) then return some named
                return none
            | _ => return none
          if closure.group == "functools" && (["cache_clear", "cache_info"].any fun found =>
              Text.ofString found = name) then
            return some (.bound (.native "functools" name.toString) (.object place))
          if closure.group == "contextlib" && (["__enter__", "__exit__"].any fun found =>
              Text.ofString found = name) then
            return some (.bound (.native "contextlib" name.toString) (.object place))
          return none
  | .wrapper wrapper values =>
      let names := if wrapper = .computed then ["fget", "fset", "fdel"] else ["__func__"]
      match names.findIdx? fun found => Text.ofString found = name with
      | some index => return some (values.getD index .nothing)
      | none =>
          if name = ("__isabstractmethod__" : Text) then
            return ← abstractMark? values
          return none
  | .stream (.ofFunction _ _ streamName) =>
      if name = ("__name__" : Text) || name = ("__qualname__" : Text) then
        return some (.text streamName)
      return none
  | .connection connection =>
      if name = ("row_factory" : Text) then return some connection.rowFactory
      if name = ("in_transaction" : Text) then return some (.bool connection.pending.isSome)
      if name = ("isolation_level" : Text) then return some .nothing
      if name = ("total_changes" : Text) then return some .unknown
      return none
  | .cursor cursor =>
      if name = ("rowcount" : Text) then return some (.integer cursor.rowCount)
      if name = ("lastrowid" : Text) then return some cursor.lastRow
      if name = ("arraysize" : Text) then return some (.integer 1)
      if name = ("connection" : Text) then return some (.object cursor.connection)
      if name = ("description" : Text) then
        match cursor.columns with
        | none => return some .nothing
        | some columns =>
            return some (.tuple (columns.map fun column =>
              .tuple (.text column :: List.replicate 6 .nothing)))
      return none
  | .module moduleName names =>
      if name = ("__name__" : Text) then return some (.text moduleName)
      if name = ("__dict__" : Text) then return some (.object names)
      return none
  | .view mapping _ =>
      if name = ("mapping" : Text) then return some (.object mapping)
      return none
  | _ => return none

/-- The attribute of a module. -/
def attributeOfModule (place : ObjectPlace) (moduleName : Text) (names : ObjectPlace)
    (name : Text) : ScriptRun ScriptValue := do
  match ← field? names name with
  | some found => return found
  | none =>
      match ← objectAttribute? place (.module moduleName names) name with
      | some found => return found
      | none =>
          match ← field? names "__getattr__" with
          | some function => call function [.text name]
          | none =>
              if ModuleLibrary.holds moduleName then return .unknown
              refuseAttribute (("module " : Text) ++ Quoted.ofText moduleName) name
                (.object place)

/-- The classes that stand behind one of them in an order. -/
def behind (kind : ScriptValue) (order : List ScriptValue) : List ScriptValue :=
  (order.dropWhile fun other => other != kind).drop 1

/-- The attribute of an instance in the classes behind one of its classes. -/
def attributeAbove (place : ObjectPlace) (kind owner : ScriptValue) (name : Text) :
    ScriptRun ScriptValue := do
  let isClass ← if ← isKind owner then isBelow owner kind else pure false
  let ownKind ← if isClass then pure owner else kindOf owner
  match ← memberIn? name (behind kind (← orderOf ownKind)) with
  | some member => bindMember member (if isClass then none else some owner) ownKind
  | none =>
      if name = ("__class__" : Text) then return .kind "super"
      refuseAttribute (Quoted.ofText "super" ++ " object") name (.object place)

/-- Whether a fault is one of a missing attribute. -/
def isMissing (stop : ScriptStop) : ScriptRun Bool := do
  match stop with
  | .raised fault => isOf fault "AttributeError"
  | .exhausted => return false

/-- The attribute of an instance by its own names and those of its classes. -/
def instanceAttribute (value : ScriptValue) (found : ScriptInstance) (name : Text) :
    ScriptRun ScriptValue := do
  let member ← member? found.kind name
  let leads ←
    match member with
    | some member => isLeading member
    | none => pure false
  let own ← if leads then pure none else field? found.names name
  match own, member with
  | some own, _ => return own
  | none, some member =>
      bindMember member (some value) found.kind
  | none, none =>
      if name = ("__class__" : Text) then return found.kind
      if name = ("__dict__" : Text) then return .object found.names
      let kinds ← orderOf found.kind
      let ofFault :=
        if kinds.contains (.kind "BaseException") then
          let arguments : List ScriptValue :=
            match found.content with
            | .tuple arguments => arguments
            | _ => []
          (faultAttribute? found name).orElse fun _ => faultArgument? kinds arguments name
        else none
      match ofFault with
      | some value => return value
      | none =>
          if name = ("__module__" : Text) || name = ("__doc__" : Text) then
            return ← attributeOfKind found.kind name
          refuseAttribute (Quoted.ofText (← nameOfKind found.kind) ++ " object") name value

/-- The attribute of a value. -/
def attributeOf (value : ScriptValue) (name : Text) : ScriptRun ScriptValue := do
  match value with
  | .unknown => return .unknown
  | .kind _ => attributeOfKind value name
  | .object place =>
      match ← objectAt place with
      | .madeKind _ => attributeOfKind value name
      | .module moduleName names => attributeOfModule place moduleName names name
      | .above kind owner => attributeAbove place kind owner name
      | .instance found =>
          let plain : ScriptRun ScriptValue := do
            match ← madeMember? found.kind "__getattribute__" with
            | some getter => call getter [value, .text name]
            | none => instanceAttribute value found name
          tryCatch plain fun stop => do
            if ← isMissing stop then
              match ← madeMember? found.kind "__getattr__" with
              | some getter => call getter [value, .text name]
              | none => throw stop
            else throw stop
      | object =>
          match ← objectAttribute? place object name with
          | some found => return found
          | none => ofKind (.kind (objectKind object))
  | .bound function owner =>
      if name = ("__self__" : Text) then return owner
      if name = ("__func__" : Text) then return function
      match function with
      | .native _ native =>
          if name = ("__name__" : Text) then return .text (Text.ofString native)
          return .unknown
      | .object place =>
          match ← objectAttribute? place (← objectAt place) name with
          | some found => return found
          | none => ofKind (.kind "method")
      | _ => return .unknown
  | .native group native =>
      if name = ("__name__" : Text) || name = ("__qualname__" : Text) then
        return .text (Text.ofString native)
      if name = ("__module__" : Text) then
        return .text (Text.ofString (if group == "" then "builtins" else group))
      if isCommonAttribute name then return .unknown
      ofKind (.kind "builtin_function_or_method")
  | .integer number => ofNumber (.integer number) name
  | .bool truth => ofNumber (.bool truth) name
  | .float number =>
      if name = ("real" : Text) then return .float number
      if name = ("imag" : Text) then return .float 0
      ofKind (.kind "float")
  | .slice start stop step =>
      if name = ("start" : Text) then return start
      if name = ("stop" : Text) then return stop
      if name = ("step" : Text) then return step
      ofKind (.kind "slice")
  | .range start stop step =>
      if name = ("start" : Text) then return .integer start
      if name = ("stop" : Text) then return .integer stop
      if name = ("step" : Text) then return .integer step
      ofKind (.kind "range")
  | value => ofKind (.kind value.plainKind)
where
  ofKind (kind : ScriptValue) : ScriptRun ScriptValue := do
    if name = ("__class__" : Text) then return kind
    match ← member? kind name with
    | some member => bindMember member (some value) kind
    | none =>
        if name = ("__doc__" : Text) then return .unknown
        refuseAttribute (Quoted.ofText (← nameOfKind kind) ++ " object") name value
  ofNumber (number : ScriptValue) (name : Text) : ScriptRun ScriptValue := do
    let whole := (number.integer?).getD 0
    if name = ("real" : Text) || name = ("numerator" : Text) then return .integer whole
    if name = ("imag" : Text) then return .integer 0
    if name = ("denominator" : Text) then return .integer 1
    ofKind (.kind number.plainKind)

/-- The attribute of a value, if it has one. -/
def attribute? (value : ScriptValue) (name : Text) : ScriptRun (Option ScriptValue) :=
  tryCatch (do return some (← attributeOf value name)) fun stop => do
    if ← isMissing stop then return none else throw stop

/-- Sets an attribute of an instance without asking its class. -/
def setOwnAttribute (value : ScriptValue) (found : ScriptInstance) (name : Text)
    (content : ScriptValue) : ScriptRun Unit := do
  let place : ObjectPlace :=
    match value with
    | .object place => place
    | _ => 0
  let links (change : FaultLinks → FaultLinks) : ScriptRun Unit :=
    setObject place (.instance { found with links := change found.links })
  let isFault := (← orderOf found.kind).contains (.kind "BaseException")
  if isFault && name = ("__cause__" : Text) then
    links fun before => { before with cause := content, suppressed := true }
  else if isFault && name = ("__context__" : Text) then
    links fun before => { before with context := content }
  else if isFault && name = ("__suppress_context__" : Text) then
    links fun before => { before with suppressed := content != .bool false }
  else if isFault && name = ("__traceback__" : Text) then return ()
  else if isFault && name = ("args" : Text) then
    setObject place (.instance { found with content })
  else if name = ("__class__" : Text) then
    setObject place (.instance { found with kind := content })
  else if name = ("__dict__" : Text) then
    match content with
    | .object names => setObject place (.instance { found with names })
    | _ => refuseType "__dict__ must be set to a dictionary"
  else
    match ← member? found.kind name with
    | some (.object memberPlace) =>
        match ← objectAt memberPlace with
        | .wrapper .computed (_ :: setter :: _) =>
            if setter == .nothing then
              refuse "AttributeError" (("property " : Text) ++ Quoted.ofText name ++ " of " ++
                Quoted.ofText (← nameOfKind found.kind) ++ " object has no setter")
            let _ ← call setter [value, content]
        | .instance inner =>
            match ← madeMember? inner.kind "__set__" with
            | some setter =>
                let _ ← call setter [.object memberPlace, value, content]
            | none => setField found.names name content
        | _ => setField found.names name content
    | _ =>
        match ← madeMember? found.kind "__slots__" with
        | some slots =>
            let order ← orderOf found.kind
            let allowed ← slotNames order
            let isOpen ← hasOpenClass order
            if isOpen || allowed.contains name || slots == .unknown then
              setField found.names name content
            else
              refuseAttribute (Quoted.ofText (← nameOfKind found.kind) ++ " object") name value
        | none =>
            match found.kind with
            | .kind "object" => refuseAttribute "'object' object" name value
            | _ => setField found.names name content
where
  /-- The names that classes allow for their instances. -/
  slotNames : List ScriptValue → ScriptRun (List Text)
    | [] => return []
    | kind :: kinds => do
        let others ← slotNames kinds
        match ← ownMember? kind "__slots__" with
        | some (.text name) => return name :: others
        | some (.tuple names) => return names.filterMap textOf? ++ others
        | some (.object place) =>
            match ← objectAt place with
            | .list names => return names.toList.filterMap textOf? ++ others
            | _ => return others
        | _ => return others
  textOf? : ScriptValue → Option Text
    | .text name => some name
    | _ => none
  /-- Whether one of some classes allows all names. -/
  hasOpenClass : List ScriptValue → ScriptRun Bool
    | [] => return false
    | kind :: kinds => do
        match kind with
        | .object _ =>
            if (← ownMember? kind "__slots__").isNone then return true
            hasOpenClass kinds
        | _ => hasOpenClass kinds

/-- Sets an attribute of a class. -/
def setOfClass (place : ObjectPlace) (made : MadeKind) (name : Text) (content : ScriptValue) :
    ScriptRun Unit := do
  let kind := ScriptValue.object place
  if let some (member, true) ← metaclassMember? kind name then
    if let .object memberPlace := member then
      if let .wrapper .computed (_ :: setter :: _) ← objectAt memberPlace then
        let _ ← call setter [kind, content]
        return ()
  if let some members ← membersOf kind then
    for member in members do
      if (← field? made.names name) == some member then
        refuse "AttributeError" (("cannot reassign member " : Text) ++ Quoted.ofText name)
  match content with
  | .text given =>
      if name = ("__name__" : Text) then setObject place (.madeKind { made with name := given })
      else if name = ("__qualname__" : Text) then
        setObject place (.madeKind { made with path := given })
      else setField made.names name content
  | content => setField made.names name content

/-- Sets an attribute of a value. -/
def setAttribute (value : ScriptValue) (name : Text) (content : ScriptValue) : ScriptRun Unit := do
  match value with
  | .unknown => return ()
  | .kind known =>
      refuseType (("cannot set " : Text) ++ Quoted.ofText name ++
        " attribute of immutable type " ++ Quoted.ofText (KnownKind.shownName known))
  | .object place =>
      match ← objectAt place with
      | .instance found =>
          match ← madeMember? found.kind "__setattr__" with
          | some setter =>
              let _ ← call setter [value, .text name, content]
          | none => setOwnAttribute value found name content
      | .madeKind made =>
          match ← method? value "__setattr__" with
          | some setter =>
              let _ ← call setter [.text name, content]
          | none => setOfClass place made name content
      | .function function => setField function.names name content
      | .closure closure => setField closure.names name content
      | .module _ names => setField names name content
      | .connection connection =>
          if name = ("row_factory" : Text) then
            setObject place (.connection { connection with rowFactory := content })
      | object => missing (.kind (objectKind object))
  | .bound _ _ => missing (.kind "method")
  | value => missing (.kind value.plainKind)
where
  missing (kind : ScriptValue) : ScriptRun Unit := do
    if (← member? kind name).isSome then
      refuse "AttributeError" (Quoted.ofText (← nameOfKind kind) ++ " object attribute " ++
        Quoted.ofText name ++ " is read-only")
    refuseAttribute (Quoted.ofText (← nameOfKind kind) ++ " object") name value

/-- Removes an attribute of an instance without asking its class. -/
def removeOwnAttribute (value : ScriptValue) (found : ScriptInstance) (name : Text) :
    ScriptRun Unit := do
  match ← member? found.kind name with
  | some (.object memberPlace) =>
      match ← objectAt memberPlace with
      | .wrapper .computed values =>
          let remover := values.getD 2 .nothing
          if remover == .nothing then
            refuse "AttributeError" (("property " : Text) ++ Quoted.ofText name ++ " of " ++
              Quoted.ofText (← nameOfKind found.kind) ++ " object has no deleter")
          let _ ← call remover [value]
      | _ => plain
  | _ => plain
where
  plain : ScriptRun Unit := do
    if !(← removeField found.names name) then
      refuseAttribute (Quoted.ofText (← nameOfKind found.kind) ++ " object") name value

/-- Removes an attribute of a value. -/
def removeAttribute (value : ScriptValue) (name : Text) : ScriptRun Unit := do
  match value with
  | .unknown => return ()
  | .object place =>
      match ← objectAt place with
      | .instance found =>
          match ← madeMember? found.kind "__delattr__" with
          | some remover =>
              let _ ← call remover [value, .text name]
          | none => removeOwnAttribute value found name
      | .madeKind made =>
          if !(← removeField made.names name) then
            refuseAttribute (("type object " : Text) ++ Quoted.ofText made.name) name value
      | .function function =>
          if !(← removeField function.names name) then
            refuseAttribute "'function' object" name value
      | .module moduleName names =>
          if !(← removeField names name) then
            refuseAttribute (("module " : Text) ++ Quoted.ofText moduleName) name value
      | object =>
          refuseAttribute (Quoted.ofText (KnownKind.shownName (objectKind object)) ++ " object")
            name value
  | value => refuseAttribute (Quoted.ofText (← kindName value) ++ " object") name value

end ScriptRun

end EventForge
