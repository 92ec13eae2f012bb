import EventForge.Script.Instantiation

/-!
# Making classes

The order of the classes that a class is made from, and the making of a class.
-/

namespace EventForge

/-!
## The order of classes

A class comes before the classes that it is made from, and these keep the order in which they are
named.  Not all demands for an order can be met together.
-/

namespace ClassOrder

/-- Whether a class must come behind another one. -/
def isBehind {Item : Type} [BEq Item] (item : Item) (orders : List (List Item)) : Bool :=
  orders.any fun order => (order.drop 1).contains item

/-- The first class of an order that must come behind no other. -/
def first? {Item : Type} [BEq Item] (orders : List (List Item)) : Option Item :=
  orders.findSome? fun order =>
    match order with
    | [] => none
    | item :: _ => if isBehind item orders then none else some item

/-- Orders without a class that stands in front of them. -/
def without {Item : Type} [BEq Item] (item : Item) (orders : List (List Item)) :
    List (List Item) :=
  orders.map fun order =>
    match order with
    | [] => []
    | other :: rest => if other == item then rest else order

/-- One order that agrees with all others, if there is one.  The fuel bounds its length. -/
def merge? {Item : Type} [BEq Item] : Nat → List (List Item) → Option (List Item)
  | 0, orders => if orders.all List.isEmpty then some [] else none
  | fuel + 1, orders =>
      if orders.all List.isEmpty then some []
      else
        match first? orders with
        | none => none
        | some item => (merge? fuel (without item orders)).map (item :: ·)

/-- The order of the classes from which a class is made: `bases` are their own orders. -/
def ofBases? {Item : Type} [BEq Item] (bases : List Item) (orders : List (List Item)) :
    Option (List Item) :=
  let all := orders ++ [bases]
  merge? all.flatten.length all

end ClassOrder

/-!
## Making classes

A class keeps the names that its statements bind.  The classes that it is made from are told about
it.  The values of an enumeration become its members.
-/

namespace ScriptRun

/-- What is known about a class before it is there. -/
structure ClassParts where
  name : Text
  path : Text
  module : Text
  bases : List ScriptValue := []
  keywords : Fields ScriptValue := []
  /-- The mapping of the names of the class. -/
  names : ObjectPlace
  metaclass : ScriptValue := .kind "type"
deriving Inhabited

/-- Known kinds that no class can be made from. -/
def closedKinds : List String := [
  "bool", "NoneType", "range", "slice", "function", "method", "generator", "ellipsis",
  "builtin_function_or_method", "NotImplementedType", "memoryview"]

/-- The refusal of a value in the place of a class. -/
def refuseBase (value : ScriptValue) : ScriptRun Unit := do
  match value with
  | .nothing => refuseType "NoneType takes no arguments"
  | .integer _ => refuseType "int() takes at most 2 arguments (3 given)"
  | .bool _ => refuseType "bool expected at most 1 argument, got 3"
  | .float _ => refuseType "float expected at most 1 argument, got 3"
  | .text _ => refuseType "str() argument 'encoding' must be str, not tuple"
  | .tuple _ => refuseType "tuple expected at most 1 argument, got 3"
  | value =>
      match ← nameOfKind (← kindOf value) with
      | kind =>
          if kind = ("function" : Text) then
            refuseType "function() argument 'code' must be code, not str"
          if kind = ("module" : Text) then
            refuseType "module() takes at most 2 arguments (3 given)"
          refuseType (kind ++ " expected at most 1 argument, got 3")

/-- The classes among the values that a class is made from. -/
def classesAmong : List ScriptValue → ScriptRun (List ScriptValue)
  | [] => return []
  | base :: bases => do
      match base with
      | .unknown => classesAmong bases
      | .kind name =>
          if closedKinds.contains name then
            refuseType (("type " : Text) ++ Quoted.ofText (KnownKind.shownName name) ++
              " is not an acceptable base type")
          return base :: (← classesAmong bases)
      | .object place =>
          match ← objectAt place with
          | .madeKind _ => return base :: (← classesAmong bases)
          | .marker _ => classesAmong bases
          | _ =>
              refuseBase base
              return []
      | base =>
          refuseBase base
          return []

/-- Whether two known kinds cannot be parts of one class. -/
def conflicts (orders : List (List ScriptValue)) : Bool :=
  let roots := orders.filterMap fun order =>
    (order.reverse.drop 1).findSome? fun kind =>
      match kind with
      | .kind name =>
          if ["enum.Enum", "abc.ABC", "typing.Generic", "object",
              "dbload.eventgen.runtime.contract.Event"].contains name then none
          else some name
      | _ => none
  1 < roots.eraseDups.length

/-- Whether a value is a function of a class that it leaves to others. -/
def isAbstract (value : ScriptValue) : ScriptRun Bool := do
  match value with
  | .object place =>
      match ← objectAt place with
      | .function function =>
          return (← field? function.names "__isabstractmethod__") == some (.bool true)
      | .wrapper _ values => return (← abstractMark? values) == some (.bool true)
      | _ => return false
  | _ => return false

/-- The names of a class and of those that it belongs to whose functions are left to others. -/
def abstractNames (kind : ScriptValue) (order : List ScriptValue) : ScriptRun (List Text) := do
  let mut names : List Text := []
  for other in order do
    if let some made ← madeKind? other then
      for entry in (← entriesAt made.names) do
        match entry.1 with
        | .text name => names := if names.contains name then names else name :: names
        | _ => pure ()
  let found ← names.filterM fun name => do
    match ← madeMember? kind name with
    | some value => isAbstract value
    | none => return false
  return Text.sort found

/-- Wraps the function under a name, unless it is wrapped already. -/
def wrapUnder (names : ObjectPlace) (name : Text) (wrapper : AttributeWrapper) :
    ScriptRun Unit := do
  match ← field? names name with
  | some (.object place) =>
      match ← objectAt place with
      | .function _ => setField names name (← keepValue (.wrapper wrapper [.object place]))
      | _ => return ()
  | _ => return ()

/-- Whether a name is one of those that stand between two marks on each side. -/
def isSpecialName (name : Text) : Bool :=
  name.startsWith "__" && name.endsWith "__" && 4 < name.length

/-- Whether the value under a name of an enumeration is a member of it. -/
def isMemberValue (className name : Text) (value : ScriptValue) : ScriptRun Bool := do
  if isSpecialName name || (name.startsWith "_" && name.endsWith "_") ||
      name.startsWith (("_" : Text) ++ className ++ "__") then
    return false
  match value with
  | .object place =>
      match ← objectAt place with
      | .function _ | .wrapper _ _ | .closure _ | .madeKind _ => return false
      | .instance found => return (← madeMember? found.kind "__get__").isNone
      | _ => return true
  | .kind _ | .native _ _ | .bound _ _ => return false
  | _ => return true

/-- The value of a member that is left to its enumeration. -/
def automaticValue (kinds : List ScriptValue) (name : Text) (before : List ScriptValue) :
    ScriptValue :=
  if kinds.contains (.kind "enum.StrEnum") then .text name.lower
  else
    let highest := before.foldl (fun found value => max found (value.integer?.getD 0)) (0 : Int)
    if kinds.contains (.kind "enum.Flag") then
      .integer (if highest ≤ 0 then 1 else twoTo (Binary64.bitLength highest.natAbs))
    else .integer (highest + 1)

/-- Whether a value stands for one that is left to its enumeration. -/
def isAutomatic (value : ScriptValue) : ScriptRun Bool := do
  match value with
  | .object place =>
      match ← objectAt place with
      | .marker name => return name == "enum.auto"
      | _ => return false
  | _ => return false

/-- The members of a value that is a tuple, or the value alone. -/
def partsOfValue (value : ScriptValue) : List ScriptValue :=
  match value with
  | .tuple parts => parts
  | other => [other]

/-- Makes members of the values of an enumeration. -/
def makeMembers (kind : ScriptValue) (parts : ClassParts) : ScriptRun Unit := do
  let kinds ← orderOf kind
  let root := kinds.findSome? fun other =>
    match other with
    | .kind name => if ["int", "str", "float"].contains name then some name else none
    | _ => none
  let mut values : List ScriptValue := []
  let all ← keep (.mapping #[])
  for entry in (← entriesAt parts.names) do
    match entry.1 with
    | .text name =>
        if ← isMemberValue parts.name name entry.2 then
          let value ←
            if ← isAutomatic entry.2 then pure (automaticValue kinds name values.reverse)
            else pure entry.2
          let known ← values.findM? fun other => alike other value
          let earlier ←
            match known with
            | some _ =>
                let members := (← membersOf kind).getD []
                members.findM? fun member => do
                  match ← instance? member with
                  | some found => alike ((← field? found.names "_value_").getD .nothing) value
                  | none => return false
            | none => pure none
          let member ←
            match earlier with
            | some member => pure member
            | none =>
                let content ←
                  match root with
                  | some root =>
                      pure ((← convert? root { given := partsOfValue value }).getD .nothing)
                  | none => pure .nothing
                let value := if root.isSome && (match value with
                  | .tuple _ => true
                  | _ => false) then content else value
                let member ← newInstance kind content
                  [("_value_", value), ("_name_", .text name), ("value", value),
                    ("name", .text name)]
                if let some starter ← method? member "__init__" then
                  let _ ← call starter (partsOfValue value)
                pure member
          values := value :: values
          setField parts.names name member
          setField all name member
    | _ => pure ()
  setField parts.names "__members__" (.object all)

/-- Tells attributes of a class their names. -/
def nameAttributes (kind : ScriptValue) (names : ObjectPlace) : ScriptRun Unit := do
  for entry in (← entriesAt names) do
    match entry.1, entry.2 with
    | .text name, .object place =>
        match ← objectAt place with
        | .closure closure =>
            if closure.name == "cached_property" then setField closure.names "attrname" (.text name)
        | .instance _ =>
            if let some method ← method? entry.2 "__set_name__" then
              let _ ← call method [kind, .text name]
        | _ => pure ()
    | _, _ => pure ()

/-- Tells the classes that a class is made from about it. -/
def announceClass (kind : ScriptValue) (order : List ScriptValue) (keywords : Fields ScriptValue) :
    ScriptRun Unit := do
  let made := (order.drop 1).filter fun other =>
    match other with
    | .object _ => true
    | _ => false
  match ← memberIn? "__init_subclass__" made with
  | some member =>
      let _ ← callWith (← bindMember member none kind) { named := keywords }
  | none =>
      if !keywords.isEmpty then
        refuseType ((← pathOfKind kind) ++ ".__init_subclass__() takes no keyword arguments")

/-- The class of a class that is made from others: the one that is asked for, or one below it that
the others are of. -/
def metaclassOf (asked : ScriptValue) : List ScriptValue → ScriptRun ScriptValue
  | [] => return asked
  | base :: bases => do
      let own ← if ← isKind base then kindOf base else pure (.kind "type")
      if ← isBelow asked own then metaclassOf asked bases
      else if ← isBelow own asked then metaclassOf own bases
      else
        refuseType (("metaclass conflict: the metaclass of a derived class must be a (non-strict) " :
          Text) ++ "subclass of the metaclasses of all its bases")

/-- Makes a class from its parts. -/
def makeClass (parts : ClassParts) : ScriptRun ScriptValue := do
  let bases ← classesAmong parts.bases
  let bases := if bases.isEmpty then [.kind "object"] else bases
  let orders ← bases.mapM orderOf
  for (base, place) in bases.zipIdx do
    if (bases.take place).contains base then
      refuseType (("duplicate base class " : Text) ++ (← nameOfKind base))
    if ((← membersOf base).getD []).length ≠ 0 then
      refuseType (Quoted.ofText (parts.name) ++ " cannot extend " ++ (← displayText base))
  if conflicts orders then refuseType "multiple bases have instance lay-out conflict"
  match ClassOrder.ofBases? bases orders with
  | none =>
      let names ← bases.mapM nameOfKind
      refuseType (("Cannot create a consistent method resolution\norder (MRO) for bases " : Text) ++
        Text.join ", " names)
  | some behind =>
      let path : Text ←
        match ← field? parts.names "__qualname__" with
        | some (.text path) =>
            let _ ← removeField parts.names "__qualname__"
            pure path
        | _ => pure parts.path
      let metaclass ← metaclassOf parts.metaclass bases
      let made : MadeKind := {
        name := parts.name, path, module := parts.module, bases, order := [], names := parts.names
        metaclass }
      let place ← keep (.madeKind made)
      let kind := ScriptValue.object place
      let order := kind :: behind
      setObject place (.madeKind { made with order })
      wrapUnder parts.names "__new__" .ofNothing
      wrapUnder parts.names "__init_subclass__" .ofClass
      wrapUnder parts.names "__class_getitem__" .ofClass
      if (← field? parts.names "__eq__").isSome && (← field? parts.names "__hash__").isNone then
        setField parts.names "__hash__" .nothing
      if order.contains (.kind "enum.Enum") then makeMembers kind parts
      if ← isBelow metaclass (.kind "abc.ABCMeta") then
        setField parts.names "__abstractmethods__"
          (.tuple ((← abstractNames kind order).map .text))
      nameAttributes kind parts.names
      announceClass kind order parts.keywords
      return kind

end ScriptRun

end EventForge
