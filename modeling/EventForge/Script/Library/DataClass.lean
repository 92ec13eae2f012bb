import EventForge.Script.Binding
import EventForge.Script.Library.Closure

/-!
# Classes of records

Classes whose instances are made of named parts: classes of data, and tuples with names.
-/

namespace EventForge

/-!
## Classes of data

A class of data has fields, which its notes declare.  Its instances are begun from values for the
fields, shown with them, and compared by them.
-/

namespace DataField

/-- The value of a field that has no default. -/
def missing : ScriptValue := .native "dataclasses" "MISSING"

/-- The default of a parameter for a field whose default is made anew each time. -/
def made : ScriptValue := .native "dataclasses" "_HAS_DEFAULT_FACTORY"

/-- The note in front of the fields that are only given by their names. -/
def namedOnly : ScriptValue := .kind "dataclasses.KW_ONLY"

end DataField

/-- What a class of data is asked to have. -/
structure DataOptions where
  isBegun : Bool := true
  isShown : Bool := true
  isEqual : Bool := true
  isOrdered : Bool := false
  hasHash : Bool := false
  isFrozen : Bool := false
  isNamedOnly : Bool := false

namespace ScriptRun

/-- The name under which a class keeps its fields. -/
def fieldsName : Text := "__dataclass_fields__"

/-- What a field says about itself. -/
def fieldPart (field : ScriptValue) (name : Text) : ScriptRun ScriptValue := do
  match ← instance? field with
  | some found => return (← field? found.names name).getD .nothing
  | none => return .nothing

def fieldName (field : ScriptValue) : ScriptRun Text := do
  match ← fieldPart field "name" with
  | .text name => return name
  | _ => return []

/-- A field with what is known about it. -/
def newField (arguments : Fields ScriptValue) : ScriptRun ScriptValue := do
  let found (name : String) (standard : ScriptValue) : Text × ScriptValue :=
    (Text.ofString name, (arguments.get? (Text.ofString name)).getD standard)
  newInstance (.kind "dataclasses.Field") .nothing [
    ("name", .nothing), ("type", .nothing), found "default" DataField.missing,
    found "default_factory" DataField.missing, found "init" (.bool true),
    found "repr" (.bool true), found "hash" .nothing, found "compare" (.bool true),
    found "metadata" .nothing, found "kw_only" DataField.missing, ("_field_type", .text "field")]

def isField (value : ScriptValue) : ScriptRun Bool := isOf value "dataclasses.Field"

/-- The first word of a note behind a dot, and the word in front of it. -/
def leadingNote (note : Text) : Option Text × Text :=
  let isWord (point : CodePoint) : Bool := point.isAsciiAlphanumeric || point = '_'
  let trimmed : Text := note.dropWhile CodePoint.isBlank
  let first : Text := trimmed.takeWhile isWord
  let rest : Text := (trimmed.drop first.length).dropWhile CodePoint.isBlank
  match rest with
  | point :: rest =>
      if point = '.' then
        let rest : Text := rest.dropWhile CodePoint.isBlank
        (some first, rest.takeWhile isWord)
      else (none, first)
  | [] => (none, first)

/-- Whether a note stands for a known kind; notes that are texts are read in their script. -/
def notesKind (globals : ObjectPlace) (note : ScriptValue) (kind : String) : ScriptRun Bool := do
  match note with
  | .text written =>
      let (module, name) := leadingNote written
      match module with
      | none => return (← field? globals name) == some (.kind kind)
      | some module =>
          match ← field? globals module with
          | some owner => return (← attribute? owner name) == some (.kind kind)
          | none => return false
  | note => return note == .kind kind

/-- Whether a value can change, so that it must not be shared by instances. -/
def isShared (value : ScriptValue) : ScriptRun Bool := do
  match value with
  | .object place =>
      match ← objectAt place with
      | .list _ | .mapping _ | .set _ false | .buffer _ => return true
      | .instance found => return (← member? found.kind "__hash__") == some .nothing
      | _ => return false
  | _ => return false

/-- The field for a note of a class. -/
def fieldOf (globals : ObjectPlace) (kind : ScriptValue) (name : Text) (note : ScriptValue)
    (isNamedOnly : Bool) : ScriptRun ScriptValue := do
  let standard ← attribute? kind name
  let given ← match standard with
    | some value => isField value
    | none => pure false
  let field ←
    if given then pure (standard.getD .nothing)
    else newField (standard.toList.map fun value => ("default", value))
  setAttribute field "name" (.text name)
  setAttribute field "type" note
  let isOfClass ← notesKind globals note "typing.ClassVar"
  let isForStart ← notesKind globals note "dataclasses.InitVar"
  setAttribute field "_field_type"
    (.text (if isOfClass then "class" else if isForStart then "start" else "field"))
  let factory ← fieldPart field "default_factory"
  if (isOfClass || isForStart) && factory != DataField.missing then
    refuseType (("field " : Text) ++ name ++ " cannot have a default factory")
  if (← fieldPart field "kw_only") == DataField.missing then
    setAttribute field "kw_only" (.bool isNamedOnly)
  if !isOfClass && !isForStart then
    let value ← fieldPart field "default"
    if ← isShared value then
      refuseValue (("mutable default " : Text) ++ (← displayText (← kindOf value)) ++
        " for field " ++ name ++ " is not allowed: use default_factory")
  return field

/-- The fields of a class of data, by their names. -/
def fieldsOf? (kind : ScriptValue) : ScriptRun (Option (List ScriptValue)) := do
  match ← madeMember? kind fieldsName with
  | some (.object place) =>
      return some ((← entriesAt place).toList.map fun entry => entry.2)
  | _ => return none

/-- The fields of a class of data that are attributes of its instances. -/
def plainFields? (kind : ScriptValue) : ScriptRun (Option (List ScriptValue)) := do
  match ← fieldsOf? kind with
  | none => return none
  | some fields =>
      return some (← fields.filterM fun field => do
        return (← fieldPart field "_field_type") == .text "field")

/-- Sets an attribute of a class unless it has one of its own. -/
def setNew (made : MadeKind) (name : Text) (value : ScriptRun ScriptValue) : ScriptRun Unit := do
  if (← field? made.names name).isNone then setField made.names name (← value)

/-- A method of a class of data. -/
def dataMethod (made : MadeKind) (kind : ScriptValue) (name : String) (options : List ScriptValue) :
    ScriptRun ScriptValue :=
  newClosure "dataclasses" name (kind :: options) true
    [("__name__", .text (Text.ofString name)),
      ("__qualname__", .text (made.path ++ "." ++ Text.ofString name))]

/-- Whether a field takes part in the beginning of an instance. -/
def isBeginning (field : ScriptValue) : ScriptRun Bool := do
  return (← fieldPart field "_field_type") != .text "class" && (← isTrue (← fieldPart field "init"))

/-- Refuses a field without a default behind one that has one. -/
def requireOrder (hasDefault : Bool) : List ScriptValue → ScriptRun Unit
  | [] => return ()
  | field :: fields => do
      let counts := (← isBeginning field) && !(← isTrue (← fieldPart field "kw_only"))
      if !counts then requireOrder hasDefault fields
      else
        let has := (← fieldPart field "default") != DataField.missing ||
          (← fieldPart field "default_factory") != DataField.missing
        if hasDefault && !has then
          refuseType (("non-default argument " : Text) ++ Quoted.ofText (← fieldName field) ++
            " follows default argument")
        requireOrder (hasDefault || has) fields

/-- Whether a class of data is one whose instances cannot change. -/
def isFrozenKind (kind : ScriptValue) : ScriptRun Bool := do
  return (← madeMember? kind "__dataclass_frozen__") == some (.bool true)

/-- The notes of a class itself. -/
def notesOf (made : MadeKind) : ScriptRun (Array (ScriptValue × ScriptValue)) := do
  match ← field? made.names "__annotations__" with
  | some (.object place) => entriesAt place
  | _ => return #[]

/-- Makes a class of data of a class. -/
def makeDataClass (globals : ObjectPlace) (options : DataOptions) (kind : ScriptValue) :
    ScriptRun ScriptValue := do
  let some made ← madeKind? kind | return kind
  let place ← keep (.mapping #[])
  let mut basesFrozen := false
  let mut hasBases := false
  for base in (made.order.drop 1).reverse do
    if let some baseMade ← madeKind? base then
      if let some (.object fields) ← field? baseMade.names fieldsName then
        hasBases := true
        if ← isFrozenKind base then basesFrozen := true
        putEntries place (← entriesAt fields).toList
  let notes ← notesOf made
  let mut isNamedOnly := options.isNamedOnly
  let mut own : List ScriptValue := []
  for note in notes do
    if let .text name := note.1 then
      if ← notesKind globals note.2 "dataclasses.KW_ONLY" then isNamedOnly := true
      else own := own ++ [← fieldOf globals kind name note.2 isNamedOnly]
  for field in own do
    let name ← fieldName field
    putUnder place (.text name) field
    let current ← attribute? kind name
    let isGiven ← match current with
      | some value => isField value
      | none => pure false
    if isGiven then
      let standard ← fieldPart field "default"
      if standard == DataField.missing then
        let _ ← removeField made.names name
      else setField made.names name standard
  for entry in (← entriesAt made.names) do
    if let .text name := entry.1 then
      if ← isField entry.2 then
        if !(notes.any fun note => isText name note.1) then
          refuseType (Quoted.ofText name ++ " is a field but has no type annotation")
  if hasBases && basesFrozen && !options.isFrozen then
    refuseType "cannot inherit non-frozen dataclass from a frozen one"
  if hasBases && !basesFrozen && options.isFrozen then
    refuseType "cannot inherit frozen dataclass from a non-frozen one"
  let hadEqual := (← field? made.names "__eq__").isSome
  let ownHash ← field? made.names "__hash__"
  let hasOwnHash := ownHash.isSome && !(ownHash == some .nothing && hadEqual)
  setField made.names fieldsName (.object place)
  setField made.names "__dataclass_frozen__" (.bool options.isFrozen)
  let fields := (← entriesAt place).toList.map fun entry => entry.2
  if options.isOrdered && !options.isEqual then refuseValue "eq must be true if order is true"
  if options.isBegun then
    requireOrder false fields
    setNew made "__init__" (dataMethod made kind "__init__" [.bool options.isFrozen])
  if options.isShown then setNew made "__repr__" (dataMethod made kind "__repr__" [])
  if options.isEqual then setNew made "__eq__" (dataMethod made kind "__eq__" [])
  if options.isOrdered then
    for name in ["__lt__", "__le__", "__gt__", "__ge__"] do
      if (← field? made.names (Text.ofString name)).isSome then
        refuseType (("Cannot overwrite attribute " : Text) ++ Text.ofString name ++ " in class " ++
          made.name ++ ". Consider using functools.total_ordering")
      setField made.names (Text.ofString name) (← dataMethod made kind name [])
  if options.isFrozen then
    for name in ["__setattr__", "__delattr__"] do
      if (← field? made.names (Text.ofString name)).isSome then
        refuseType (("Cannot overwrite attribute " : Text) ++ Text.ofString name ++ " in class " ++
          made.name)
      setField made.names (Text.ofString name) (← dataMethod made kind name [])
  if options.hasHash || (options.isEqual && options.isFrozen && !hasOwnHash) then
    setField made.names "__hash__" (← dataMethod made kind "__hash__" [])
  else if options.isEqual && !options.isFrozen && !hasOwnHash then
    setField made.names "__hash__" .nothing
  let starting ← fields.filterM fun field => do
    return (← isBeginning field) && !(← isTrue (← fieldPart field "kw_only"))
  setNew made "__match_args__"
    (do return .tuple ((← starting.mapM fieldName).map .text))
  return kind

/-- The options that arguments ask for. -/
def dataOptions (named : Fields ScriptValue) : ScriptRun DataOptions := do
  let found (name : String) (standard : Bool) : ScriptRun Bool :=
    isTrue ((named.get? (Text.ofString name)).getD (.bool standard))
  return {
    isBegun := ← found "init" true
    isShown := ← found "repr" true
    isEqual := ← found "eq" true
    isOrdered := ← found "order" false
    hasHash := ← found "unsafe_hash" false
    isFrozen := ← found "frozen" false
    isNamedOnly := ← found "kw_only" false }

/-- The mapping of the names of the script in which a class was made. -/
def globalsOf (kind : ScriptValue) : ScriptRun ObjectPlace := do
  let module := ((← madeKind? kind).map fun made => made.module).getD []
  match (← get).modules.get? module with
  | some place =>
      match ← objectAt place with
      | .module _ names => return names
      | _ => keep (.mapping #[])
  | none => keep (.mapping #[])

/-- The parameter for a field. -/
def parameterOf (field : ScriptValue) : ScriptRun CodeParameter := do
  let has := (← fieldPart field "default") != DataField.missing ||
    (← fieldPart field "default_factory") != DataField.missing
  return {
    shape := if ← isTrue (← fieldPart field "kw_only") then .named else .plain
    name := ← fieldName field, hasDefault := has }

/-- The default of a parameter for a field. -/
def defaultOf? (field : ScriptValue) : ScriptRun (Option (Text × ScriptValue)) := do
  let name ← fieldName field
  let standard ← fieldPart field "default"
  if standard != DataField.missing then return some (name, standard)
  if (← fieldPart field "default_factory") != DataField.missing then
    return some (name, DataField.made)
  return none

/-- Begins an instance of a class of data. -/
def beginData (kind : ScriptValue) (isFrozen : Bool) (arguments : ScriptArguments) :
    ScriptRun ScriptValue := do
  let fields := (← fieldsOf? kind).getD []
  let starting ← fields.filterM isBeginning
  let ownName : Text := "self"
  let plain ← starting.mapM parameterOf
  let (named, placed) := plain.partition fun parameter => parameter.shape = .named
  let parameters := { shape := .placed, name := ownName, hasDefault := false } :: placed ++ named
  let path := (((← madeKind? kind).map fun made => made.path).getD []) ++ ".__init__"
  let defaults ← starting.filterMapM defaultOf?
  let bound ← boundNames path parameters defaults arguments
  let owner := (bound.head?.map fun entry => entry.2).getD .nothing
  let bound := bound.drop 1
  let set (name : Text) (value : ScriptValue) : ScriptRun Unit := do
    if isFrozen then
      if let some found ← instance? owner then setOwnAttribute owner found name value
    else setAttribute owner name value
  let mut forStart : List ScriptValue := []
  for field in fields do
    let name ← fieldName field
    let kindOfField ← fieldPart field "_field_type"
    let factory ← fieldPart field "default_factory"
    let given := Fields.get? bound name
    let value ←
      match given with
      | some value => if value == DataField.made then some <$> call factory [] else pure (some value)
      | none =>
          if kindOfField == .text "field" && factory != DataField.missing then
            some <$> call factory []
          else pure none
    if let some value := value then
      if kindOfField == .text "start" then forStart := forStart ++ [value]
      else if kindOfField == .text "field" then set name value
  if let some method ← method? owner "__post_init__" then
    let _ ← call method forStart
  return .nothing

/-- The values of the fields of an instance that a part of the fields allows. -/
def valuesOfFields (kind owner : ScriptValue) (part : Text) :
    ScriptRun (List (Text × ScriptValue)) := do
  let fields := (← plainFields? kind).getD []
  let chosen ← fields.filterM fun field => do isTrue (← fieldPart field part)
  chosen.mapM fun field => do
    let name ← fieldName field
    return (name, ← attributeOf owner name)

/-- Calls a method of a class of data. -/
def callDataMethod (name : String) (values : List ScriptValue) (arguments : ScriptArguments) :
    ScriptRun ScriptValue := do
  let kind := values.headD .nothing
  let owner := arguments.given.headD .nothing
  let valuesOf (owner : ScriptValue) : ScriptRun ScriptValue := do
    return .tuple ((← valuesOfFields kind owner "compare").map fun entry => entry.2)
  match name with
  | "__init__" => beginData kind (values.getD 1 .nothing == .bool true) arguments
  | "__repr__" =>
      let shown ← (← valuesOfFields kind owner "repr").mapM fun entry => do
        return entry.1 ++ "=" ++ (← displayText entry.2)
      return .text ((← pathOfKind (← kindOf owner)) ++ enclosed "(" ")" shown)
  | "__hash__" => hashOf (← valuesOf owner)
  | "__setattr__" | "__delattr__" =>
      let field := arguments.given.getD 1 .nothing
      let own ← kindOf owner
      let isOwnField ← do
        let names ← ((← fieldsOf? kind).getD []).mapM fieldName
        pure (match field with
          | .text field => names.contains field
          | _ => false)
      if own == kind || isOwnField then
        refuse "dataclasses.FrozenInstanceError"
          ((if name == "__setattr__" then ("cannot assign to field " : Text)
            else "cannot delete field ") ++ (← displayText field))
      match ← instance? owner, field with
      | some found, .text field =>
          if name == "__setattr__" then
            setOwnAttribute owner found field (arguments.given.getD 2 .nothing)
          else removeOwnAttribute owner found field
          return .nothing
      | _, _ => return .nothing
  | name =>
      let other := arguments.given.getD 1 .nothing
      if (← kindOf owner) != (← kindOf other) then return .unsupported
      let mark := (orderMarkOfMethod? name).getD .equal
      compareValues mark (← valuesOf owner) (← valuesOf other)

/-- The refusal of a value that is no instance of a class of data. -/
def refuseData {Value : Type} (function : Text) : ScriptRun Value :=
  refuseType (function ++ "() should be called on dataclass instances")

/-- The fields of an instance of a class of data. -/
def fieldsOfInstance? (value : ScriptValue) : ScriptRun (Option (List ScriptValue)) := do
  match ← instance? value with
  | some found => plainFields? found.kind
  | none => return none

/-- The fields of instances as mappings, or as tuples.  The fuel bounds how deep values are. -/
def unfoldData (isTuple : Bool) (factory : ScriptValue) : Nat → ScriptValue → ScriptRun ScriptValue
  | 0, _ => refuseDepth ""
  | fuel + 1, value => do
      match ← fieldsOfInstance? value with
      | some fields =>
          let values ← fields.mapM fun field => do
            let name ← fieldName field
            return (name, ← unfoldData isTuple factory fuel (← attributeOf value name))
          let pairs := values.map fun entry => (ScriptValue.text entry.1, entry.2)
          let made ← if isTuple then pure (.tuple (values.map fun entry => entry.2))
            else newMapping pairs
          if factory == .nothing then return made
          if isTuple then call factory [← newList (values.map fun entry => entry.2)]
          else call factory [← newList (pairs.map fun pair => .tuple [pair.1, pair.2])]
      | none =>
          match value with
          | .tuple items => return .tuple (← items.mapM (unfoldData isTuple factory fuel))
          | value =>
              match ← list? value, ← entries? value with
              | some items, _ => newList (← items.mapM (unfoldData isTuple factory fuel))
              | none, some entries =>
                  newMapping (← entries.toList.mapM fun entry => do
                    return (← unfoldData isTuple factory fuel entry.1,
                      ← unfoldData isTuple factory fuel entry.2))
              | none, none => return value

/-- An instance of a class of data with other values for some fields. -/
def replaceData (value : ScriptValue) (named : Fields ScriptValue) : ScriptRun ScriptValue := do
  match ← fieldsOfInstance? value with
  | none => refuseData "replace"
  | some fields =>
      let mut given := named
      for field in fields do
        let name ← fieldName field
        if !(← isTrue (← fieldPart field "init")) then
          if (named.get? name).isSome then
            refuseValue (("field " : Text) ++ name ++ " is declared with init=False, " ++
              "it cannot be specified with replace()")
        else if (named.get? name).isNone then
          given := given ++ [(name, ← attributeOf value name)]
      callWith (← kindOf value) { named := given }

/-- The functions of the module for classes of data. -/
def dataTool (name : String) (arguments : ScriptArguments) : ScriptRun ScriptValue := do
  let given := arguments.given
  match name, given with
  | "dataclass", [] =>
      newClosure "dataclasses" "making" [← newMapping (arguments.named.map fun field =>
        (ScriptValue.text field.1, field.2))] false []
  | "dataclass", kind :: _ =>
      makeDataClass (← globalsOf kind) (← dataOptions arguments.named) kind
  | "field", _ =>
      if !given.isEmpty then
        refuseType (("field() takes 0 positional arguments but " : Text) ++
          Text.ofNat given.length ++ (if given.length = 1 then (" was" : Text) else " were") ++
          " given")
      let has (name : String) : Bool := (arguments.named.get? (Text.ofString name)).isSome
      if has "default" && has "default_factory" then
        refuseValue "cannot specify both default and default_factory"
      newField arguments.named
  | "fields", [value] =>
      let kind ← if ← isKind value then pure value else kindOf value
      match ← plainFields? kind with
      | some fields => return .tuple fields
      | none => refuseType "must be called with a dataclass type or instance"
  | "is_dataclass", [value] =>
      let kind ← if ← isKind value then pure value else kindOf value
      return .bool (← fieldsOf? kind).isSome
  | "asdict", value :: _ =>
      if (← fieldsOfInstance? value).isNone then refuseData "asdict"
      unfoldData false ((arguments.named.get? "dict_factory").getD .nothing) maxNesting value
  | "astuple", value :: _ =>
      if (← fieldsOfInstance? value).isNone then refuseData "astuple"
      unfoldData true ((arguments.named.get? "tuple_factory").getD .nothing) maxNesting value
  | "replace", [value] => replaceData value arguments.named
  | _, _ => return .unknown

/-- Calls a function that the module for classes of data has made. -/
def callDataTool (closure : NativeClosure) (arguments : ScriptArguments) :
    ScriptRun ScriptValue := do
  if closure.name == "making" then
    let kind := arguments.given.headD .nothing
    let options ← dataOptions (← namedIn (closure.values.headD .nothing))
    makeDataClass (← globalsOf kind) options kind
  else callDataMethod closure.name closure.values arguments

end ScriptRun

/-!
## Tuples with names

A class of tuples can name their members.  Its instances are tuples, and the members can be asked
for by their names too.
-/

namespace ScriptRun

/-- The words that are no names. -/
def reservedWords : List String := [
  "False", "None", "True", "and", "as", "assert", "async", "await", "break", "class", "continue",
  "def", "del", "elif", "else", "except", "finally", "for", "from", "global", "if", "import", "in",
  "is", "lambda", "nonlocal", "not", "or", "pass", "raise", "return", "try", "while", "with",
  "yield"]

/-- Refuses texts that cannot name the members of a tuple. -/
def requireNames (className : Text) (names : List Text) : ScriptRun Unit := do
  for name in className :: names do
    if !isNameText name then
      refuseValue ("Type names and field names must be valid identifiers: " ++ Quoted.ofText name)
    if reservedWords.any fun word => Text.ofString word = name then
      refuseValue ("Type names and field names cannot be a keyword: " ++ Quoted.ofText name)
  for (name, place) in names.zipIdx do
    if name.startsWith "_" then
      refuseValue ("Field names cannot start with an underscore: " ++ Quoted.ofText name)
    if (names.take place).contains name then
      refuseValue ("Encountered duplicate field name: " ++ Quoted.ofText name)

/-- Adds what a class of tuples with names needs to its names. -/
def addMemberNames (names : ObjectPlace) (className : Text) (members : List Text)
    (defaults : Fields ScriptValue) : ScriptRun Unit := do
  let method (name : String) (values : List ScriptValue) : ScriptRun ScriptValue :=
    newClosure "namedtuple" name values true
      [("__name__", .text (Text.ofString name)),
        ("__qualname__", .text (className ++ "." ++ Text.ofString name))]
  let wrapped (wrapper : AttributeWrapper) (function : ScriptValue) : ScriptRun ScriptValue :=
    keepValue (.wrapper wrapper [function])
  let memberNames := ScriptValue.tuple (members.map .text)
  let standards ← newMapping (defaults.map fun field => (ScriptValue.text field.1, field.2))
  let set (name : Text) (value : ScriptValue) : ScriptRun Unit := do
    if (← field? names name).isNone then setField names name value
  setField names "_fields" memberNames
  setField names "_field_defaults" standards
  setField names "__match_args__" memberNames
  setField names "__new__" (← wrapped .ofNothing
    (← method "__new__" [.text className, memberNames, standards]))
  set "_make" (← wrapped .ofClass (← method "_make" [memberNames]))
  set "_replace" (← method "_replace" [memberNames])
  set "_asdict" (← method "_asdict" [memberNames])
  set "__repr__" (← method "__repr__" [memberNames])
  set "__getnewargs__" (← method "__getnewargs__" [memberNames])
  for (name, place) in members.zipIdx do
    setField names name (← wrapped .computed (← method "member" [.integer place]))

/-- The names that an argument lists. -/
def listedMembers (value : ScriptValue) : ScriptRun (List Text) := do
  match ← contentOf value with
  | .text content => return (content.replacePoint ',' ' ').words
  | _ => (← itemsOf value).mapM shownText

/-- Makes a class of tuples with names. -/
def newNamedTuple (module : Text) (arguments : ScriptArguments) : ScriptRun ScriptValue := do
  let places ← namedArguments "namedtuple"
    ["typename", "field_names", "rename", "defaults", "module"] 2 arguments
  let className ← shownText (argument places 0 .nothing)
  let members ← listedMembers (argument places 1 .nothing)
  let renames ← isTrue (argument places 2 (.bool false))
  let members :=
    if renames then
      (members.zipIdx).map fun (name, place) =>
        let isBad := !isNameText name || name.startsWith "_" ||
          (members.take place).contains name ||
          reservedWords.any fun word => Text.ofString word = name
        if isBad then ("_" : Text) ++ Text.ofNat place else name
    else members
  if !renames then requireNames className members
  let standards ← match argument places 3 .nothing with
    | .nothing => pure []
    | standards => itemsOf standards
  if members.length < standards.length then
    refuseType "Got more default values than field names"
  let defaults := (members.drop (members.length - standards.length)).zip standards
  let names ← keep (.mapping #[])
  addMemberNames names className members defaults
  let kind ← makeClass { name := className, path := className, module, bases := [.kind "tuple"], names }
  setField names "__doc__" (.text (className ++ enclosed "(" ")" members))
  return kind

/-- Makes a class of tuples from a class that notes the names of the members. -/
def namedTupleOfClass (parts : ClassParts) : ScriptRun ScriptValue := do
  let notes ←
    match ← field? parts.names "__annotations__" with
    | some (.object place) => entriesAt place
    | _ => pure #[]
  let members := notes.toList.filterMap fun note =>
    match note.1 with
    | .text name => some name
    | _ => none
  let mut defaults : Fields ScriptValue := []
  for name in members do
    match ← field? parts.names name with
    | some value => defaults := defaults ++ [(name, value)]
    | none =>
        if let some last := defaults.getLast? then
          refuseType (("Non-default namedtuple field " : Text) ++ name ++
            " cannot follow default field " ++ last.1)
  addMemberNames parts.names parts.name members defaults
  makeClass { parts with bases := [.kind "tuple"] }

/-- The members of a tuple with names. -/
def membersOfTuple (value : ScriptValue) : ScriptRun (List ScriptValue) := do
  match ← contentOf value with
  | .tuple items => return items
  | _ => return []

/-- Calls a method of a class of tuples with names. -/
def callNamedTuple (closure : NativeClosure) (arguments : ScriptArguments) :
    ScriptRun ScriptValue := do
  let owner := arguments.given.headD .nothing
  let namesOfTuple : List Text :=
    match closure.values with
    | .tuple names :: _ | _ :: .tuple names :: _ =>
        names.filterMap fun name =>
          match name with
          | .text name => some name
          | _ => none
    | _ => []
  match closure.name, closure.values with
  | "member", [.integer place] =>
      return ((← membersOfTuple owner)[place.toNat]?).getD .nothing
  | "__new__", [.text className, _, standards] =>
      let defaults ← namedIn standards
      let parameters : List CodeParameter :=
        { shape := .placed, name := "_cls", hasDefault := false } ::
          namesOfTuple.map fun name =>
            { shape := .plain, name, hasDefault := (defaults.get? name).isSome }
      let bound ← boundNames (className ++ ".__new__") parameters defaults arguments
      newInstance owner (.tuple ((bound.drop 1).map fun entry => entry.2)) []
  | "_make", _ =>
      let items ← itemsOf (arguments.given.getD 1 .nothing)
      if items.length ≠ namesOfTuple.length then
        refuseType (("Expected " : Text) ++ Text.ofNat namesOfTuple.length ++
          " arguments, got " ++ Text.ofNat items.length)
      newInstance owner (.tuple items) []
  | "_replace", _ =>
      let items ← membersOfTuple owner
      let unknown := arguments.named.filter fun field => !namesOfTuple.contains field.1
      if !unknown.isEmpty then
        refuseValue (("Got unexpected field names: " : Text) ++
          Text.bracketed (unknown.map fun field => Quoted.ofText field.1))
      let replaced := (namesOfTuple.zip items).map fun (name, item) =>
        (arguments.named.get? name).getD item
      newInstance (← kindOf owner) (.tuple replaced) []
  | "_asdict", _ =>
      newMapping ((namesOfTuple.zip (← membersOfTuple owner)).map fun entry =>
        (ScriptValue.text entry.1, entry.2))
  | "__repr__", _ =>
      let shown ← (namesOfTuple.zip (← membersOfTuple owner)).mapM fun (name, item) => do
        return name ++ "=" ++ (← displayText item)
      return .text ((← nameOfKind (← kindOf owner)) ++ enclosed "(" ")" shown)
  | _, _ => return .tuple (← membersOfTuple owner)

end ScriptRun

end EventForge
