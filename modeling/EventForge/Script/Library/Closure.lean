import EventForge.Script.SpecialMethod

/-!
# Functions that scripts make of others

A function of the library can keep values of its own: the function that it stands for, arguments for
it, or results that it has found before.
-/

namespace EventForge

namespace ScriptRun

/-- A function of the library with values of its own. -/
def newClosure (group name : String) (values : List ScriptValue) (binds : Bool)
    (fields : Fields ScriptValue) : ScriptRun ScriptValue := do
  keepValue (.closure { group, name, values, binds, names := ← newFields fields })

/-- Attributes that a function takes over from one that it stands for. -/
def copyNames (source target : ScriptValue) : ScriptRun Unit := do
  for name in ["__module__", "__name__", "__qualname__", "__doc__"] do
    if let some value ← attribute? source (Text.ofString name) then
      setAttribute target (Text.ofString name) value
  if let some (.object names) ← attribute? source "__dict__" then
    for entry in (← entriesAt names) do
      if let .text name := entry.1 then setAttribute target name entry.2
  setAttribute target "__wrapped__" source

/-- The arguments of a call behind others. -/
def withArguments (given : List ScriptValue) (named : Fields ScriptValue)
    (arguments : ScriptArguments) : ScriptArguments :=
  { given := given ++ arguments.given
    named := arguments.named.foldl (fun fields field => Fields.insert field.1 field.2 fields) named }

/-- The named arguments that a mapping holds. -/
def namedIn (mapping : ScriptValue) : ScriptRun (Fields ScriptValue) := do
  let entries := (← entries? mapping).getD #[]
  return entries.toList.filterMap fun entry =>
    match entry.1 with
    | .text name => some (name, entry.2)
    | _ => none

/-- A function with some of its arguments. -/
def newPartial (arguments : ScriptArguments) : ScriptRun ScriptValue := do
  match arguments.given with
  | [] => refuseType "type 'partial' takes at least one argument"
  | function :: given =>
      let named ← newMapping (arguments.named.map fun field => (ScriptValue.text field.1, field.2))
      newClosure "functools" "partial" [function, .tuple given, named] false []

/-- A function that keeps its results: the function, the results, how many it keeps at most, and how
often it found one and did not. -/
def newCache (function limit : ScriptValue) : ScriptRun ScriptValue := do
  let cache ← newClosure "functools" "_lru_cache_wrapper"
    [function, ← newMapping [], limit, ← newList [.integer 0, .integer 0]] true []
  copyNames function cache
  return cache

/-- The key for arguments. -/
def cacheKey (arguments : ScriptArguments) : ScriptValue :=
  .tuple (arguments.given ++ arguments.named.map fun field =>
    .tuple [.ellipsis, .text field.1, field.2])

/-- Counts an event of a cache. -/
def countIn (counters : ScriptValue) (index : Nat) : ScriptRun Unit := do
  match counters with
  | .object place =>
      changeObject place fun object =>
        match object with
        | .list items =>
            .list (items.modify index fun item => .integer ((item.integer?.getD 0) + 1))
        | other => other
  | _ => return ()

/-- Calls a function that keeps its results. -/
def callCached (values : List ScriptValue) (arguments : ScriptArguments) :
    ScriptRun ScriptValue := do
  match values with
  | function :: .object results :: limit :: counters :: _ =>
      let key := cacheKey arguments
      match ← valueUnder? results key with
      | some value =>
          countIn counters 0
          let _ ← takeUnder? results key
          putUnder results key value
          return value
      | none =>
          countIn counters 1
          let value ← callWith function arguments
          putUnder results key value
          if let .integer limit := limit then
            let entries ← entriesAt results
            if limit.toNat < entries.size then
              setObject results (.mapping (entries.extract (entries.size - limit.toNat) entries.size))
          return value
  | _ => return .unknown

/-- Calls a property that is computed once. -/
def readCachedProperty (closure : NativeClosure) (owner : ScriptValue) : ScriptRun ScriptValue := do
  let name ← field? closure.names "attrname"
  match ← instance? owner, name, closure.values with
  | some found, some (.text name), function :: _ =>
      match ← field? found.names name with
      | some value => return value
      | none =>
          let value ← call function [owner]
          setField found.names name value
          return value
  | _, _, function :: _ => call function [owner]
  | _, _, [] => return .unknown

/-- The functions of the module for functions. -/
def functionTool (name : String) (arguments : ScriptArguments) : ScriptRun ScriptValue := do
  let given := arguments.given
  match name with
  | "partial" => newPartial arguments
  | "reduce" =>
      match ← plainArguments "reduce" 2 (some 3) arguments with
      | function :: source :: first =>
          let items ← itemsOf source
          match first ++ items with
          | [] => refuseType "reduce() of empty iterable with no initial value"
          | first :: others =>
              others.foldlM (fun found item => call function [found, item]) first
      | _ => return .unknown
  | "cache" => newCache (given.headD .nothing) .nothing
  | "lru_cache" =>
      match given with
      | [function] =>
          match function with
          | .object _ => newCache function (.integer 128)
          | limit => newClosure "functools" "lru_decorator" [limit] false []
      | _ =>
          let limit := (arguments.named.get? "maxsize").getD (.integer 128)
          newClosure "functools" "lru_decorator" [given.headD limit] false []
  | "cached_property" => newClosure "functools" "cached_property" given false []
  | "wraps" => newClosure "functools" "wrapping" given false []
  | "update_wrapper" =>
      match given with
      | wrapper :: wrapped :: _ =>
          copyNames wrapped wrapper
          return wrapper
      | _ => return .unknown
  | "cmp_to_key" => newClosure "functools" "ranking" given false []
  | "total_ordering" =>
      let kind := given.headD .nothing
      let names := ["__lt__", "__le__", "__gt__", "__ge__"]
      if let some made ← madeKind? kind then
        let mut root := ""
        for name in names do
          if root == "" && (← field? made.names (Text.ofString name)).isSome then root := name
        if root == "" then
          refuseValue "must define at least one ordering operation: < > <= >="
        for name in names do
          if (← field? made.names (Text.ofString name)).isNone then
            setField made.names (Text.ofString name)
              (← newClosure "functools" name [.text (Text.ofString root)] true [])
      return kind
  | "cache_clear" =>
      match given with
      | .object place :: _ =>
          match ← objectAt place with
          | .closure closure =>
              match closure.values with
              | _ :: .object results :: _ => setObject results (.mapping #[])
              | _ => pure ()
          | _ => pure ()
      | _ => pure ()
      return .nothing
  | _ => return .unknown

/-- A comparison that is made of another one and of equality. -/
def derivedComparison (name : String) (root : Text) (owner other : ScriptValue) :
    ScriptRun ScriptValue := do
  let some method ← method? owner root | return .unsupported
  let found ← call method [other]
  if found == .unsupported then return .unsupported
  let holds ← isTrue found
  let isEqual ← isTrue (← compareValues .equal owner other)
  let isLess := if root = ("__lt__" : Text) then holds
    else if root = ("__le__" : Text) then holds && !isEqual
    else if root = ("__gt__" : Text) then !holds && !isEqual
    else !holds
  match name with
  | "__lt__" => return .bool isLess
  | "__le__" => return .bool (isLess || isEqual)
  | "__gt__" => return .bool (!isLess && !isEqual)
  | _ => return .bool (!isLess)

/-- Calls a function that the module for functions has made. -/
def callFunctionTool (closure : NativeClosure) (place : ObjectPlace)
    (arguments : ScriptArguments) : ScriptRun ScriptValue := do
  match closure.name, closure.values with
  | "partial", [function, .tuple given, named] =>
      callWith function (withArguments given (← namedIn named) arguments)
  | "_lru_cache_wrapper", values => callCached values arguments
  | "lru_decorator", [limit] => newCache (arguments.given.headD .nothing) limit
  | "wrapping", [wrapped] =>
      let wrapper := arguments.given.headD .nothing
      copyNames wrapped wrapper
      return wrapper
  | "ranking", [function] =>
      newInstance (.kind "functools.KeyWrapper") .nothing
        [("function", function), ("obj", arguments.given.headD .nothing)]
  | name, [.text root] =>
      match arguments.given with
      | [owner, other] => derivedComparison name root owner other
      | _ =>
          let _ := place
          return .unknown
  | _, _ => return .unknown

/-- The functions of the module for operators that stand for an operator. -/
def operatorTools : List (String × String) := operatorNames.map fun entry =>
  (if entry.2 == "and" || entry.2 == "or" then entry.2 ++ "_" else entry.2, entry.1)

/-- The functions of the module for operators. -/
def operatorTool (name : String) (arguments : ScriptArguments) : ScriptRun ScriptValue := do
  match name, arguments.given with
  | "itemgetter", given => newClosure "operator" "itemgetter" given false []
  | "attrgetter", given => newClosure "operator" "attrgetter" given false []
  | "methodcaller", given =>
      newClosure "operator" "methodcaller"
        (given ++ [← newMapping (arguments.named.map fun field =>
          (ScriptValue.text field.1, field.2))]) false []
  | "neg", [value] => signed .minus value
  | "pos", [value] => signed .plus value
  | "invert", [value] | "inv", [value] => signed .invert value
  | "not_", [value] => signed .negate value
  | "truth", [value] => return .bool (← isTrue value)
  | "index", [value] => return .integer (← indexOf value)
  | "is_", [first, second] => return .bool (first.same second)
  | "is_not", [first, second] => return .bool !(first.same second)
  | "contains", [collection, item] => return .bool (← holdsItem collection item)
  | "getitem", [owner, index] => itemAt owner index
  | "setitem", [owner, index, value] =>
      setItem owner index value
      return .nothing
  | "delitem", [owner, index] =>
      removeItem owner index
      return .nothing
  | "concat", [first, second] => operate "+" first second
  | "countOf", [collection, item] =>
      return .integer (← (← itemsOf collection).filterM (alike · item)).length
  | name, given =>
      match operatorTools.find? (fun entry => entry.1 == name), given with
      | some entry, [first, second] => operate entry.2 first second
      | _, _ =>
          match OrderMark.all.find? (fun mark => mark.method = ("__" : Text) ++
              Text.ofString name ++ "__"), given with
          | some mark, [first, second] => compareValues mark first second
          | _, _ => return .unknown

/-- The value that a dotted name leads to. -/
def attributeAlong (value : ScriptValue) (path : Text) : ScriptRun ScriptValue :=
  (path.splitAt '.').foldlM attributeOf value

/-- Calls a function that the module for operators has made. -/
def callOperatorTool (closure : NativeClosure) (arguments : ScriptArguments) :
    ScriptRun ScriptValue := do
  let value := arguments.given.headD .nothing
  match closure.name, closure.values with
  | "itemgetter", [index] => itemAt value index
  | "itemgetter", several => return .tuple (← several.mapM (itemAt value))
  | "attrgetter", [.text path] => attributeAlong value path
  | "attrgetter", several =>
      return .tuple (← several.mapM fun path =>
        match path with
        | .text path => attributeAlong value path
        | _ => return .unknown)
  | "methodcaller", .text name :: given =>
      match given.getLast? with
      | some named =>
          callWith (← attributeOf value name) { given := given.dropLast, named := ← namedIn named }
      | none => call (← attributeOf value name) []
  | _, _ => return .unknown

end ScriptRun

end EventForge
