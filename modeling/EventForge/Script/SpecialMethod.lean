import EventForge.Script.ClassMaking

/-!
# Special methods of the library

Operators, comparisons and the like are methods of the kinds of the library too, so that classes of
scripts can go back to them.  A method of an operator that has no meaning for its values says so.
-/

namespace EventForge

namespace ScriptRun

/-- The hash of a value whose kind says nothing about it.  That of an object hangs on its place. -/
def plainHash? (value : ScriptValue) : ScriptRun (Option Int) := do
  match value with
  | .object place =>
      match ← objectAt place with
      | .set items _ => return ScriptHash.ofMembers? items.toList
      | _ => return some (0x7f100000000 + place)
  | value => return ScriptHash.ofValue? value

mutual

/-- The hash of a value, if it is known.  The fuel bounds how deep values are inside each other. -/
def hashIn? : Nat → ScriptValue → ScriptRun (Option Int)
  | 0, _ => return none
  | fuel + 1, value => do
      match ← method? value "__hash__" with
      | some method =>
          let found ← call method []
          match found.integer? with
          | some number => return some (ScriptHash.ofInteger number)
          | none =>
              if found.isUnknown then return none
              refuseType "__hash__ method should return an integer"
      | none =>
          match ← contentOf value with
          | .tuple items => return (← hashesIn? fuel items).map ScriptHash.ofHashes
          | content =>
              if content != value then hashIn? fuel content
              else if ← isOf value "enum.Enum" then return none
              else plainHash? value

def hashesIn? : Nat → List ScriptValue → ScriptRun (Option (List Int))
  | 0, _ => return none
  | _ + 1, [] => return some []
  | fuel + 1, value :: values => do
      match ← hashIn? fuel value, ← hashesIn? fuel values with
      | some first, some others => return some (first :: others)
      | _, _ => return none

end

/-- The hash of a value, where it does not hang on chance. -/
def hashOf (value : ScriptValue) : ScriptRun ScriptValue := do
  requireKey value
  return ((← hashIn? maxMembers value).map .integer).getD .unknown

/-- The names of the methods of operators with their marks. -/
def markOfMethod? (lead : String) (name : String) : Option String :=
  (operatorNames.find? fun entry => name == "__" ++ lead ++ entry.2 ++ "__").map fun entry => entry.1

/-- The comparison that a method is for. -/
def orderMarkOfMethod? (name : String) : Option OrderMark :=
  OrderMark.all.find? fun mark => mark.method = Text.ofString name

/-- A comparison of two values by their kinds alone. -/
def compareByKind (mark : OrderMark) (first second : ScriptValue) : ScriptRun ScriptValue := do
  match ← comparePlain? alike compareValues mark (← contentOf first) (← contentOf second) with
  | some found => return found
  | none =>
      if first.same second then
        if mark = .equal then return .bool true
        if mark = .unequal then return .bool false
      if mark = .unequal then
        if let some method ← method? first "__eq__" then
          let found ← call method [second]
          if found == .unsupported then return .unsupported
          return .bool !(← isTrue found)
      return .unsupported

/-- Operators on a value by its kind alone. -/
def operateByKind? (name : String) (owner : ScriptValue) (given : List ScriptValue) :
    ScriptRun (Option ScriptValue) := do
  let outcome (found : Option ScriptValue) : Option ScriptValue := some (found.getD .unsupported)
  let quiet (act : ScriptRun (Option ScriptValue)) : ScriptRun (Option ScriptValue) :=
    tryCatch act fun stop => do
      if ← isFaultOf stop "TypeError" then return some .unsupported else throw stop
  match given with
  | [other] =>
      if let some mark := markOfMethod? "" name then
        return ← quiet (do return outcome (← plainOperation? mark (← contentOf owner) other))
      if let some mark := markOfMethod? "r" name then
        return ← quiet (do return outcome (← plainOperation? mark other (← contentOf owner)))
      if let some mark := markOfMethod? "i" name then
        if let some found ← updateInPlace? mark owner other then return some found
        return some .unsupported
      if name == "__divmod__" then
        return outcome (← quotientAndRest? (← contentOf owner) (← contentOf other))
      if name == "__rdivmod__" then
        return outcome (← quotientAndRest? (← contentOf other) (← contentOf owner))
      return none
  | _ => return none

/-- What a value is on its own by its kind alone. -/
def valueByKind? (name : String) (owner : ScriptValue) (given : List ScriptValue) :
    ScriptRun (Option ScriptValue) := do
  let content ← contentOf owner
  match name, given with
  | "__neg__", [] => return some (← signed .minus content)
  | "__pos__", [] => return some (← signed .plus content)
  | "__invert__", [] => return some (← signed .invert content)
  | "__abs__", [] =>
      match content.quantity? with
      | some (.whole number) => return some (.integer number.natAbs)
      | some (.real number) => return some (.float number.abs)
      | none => return none
  | "__bool__", [] => return some (.bool (← isTrue content))
  | "__int__", [] | "__trunc__", [] => return some (← toInteger content)
  | "__index__", [] => return some (.integer (← indexOf content))
  | "__float__", [] => return some (← toReal content)
  | "__round__", places =>
      let places ← (places.head?).mapM indexOf
      return ← rounded content places
  | "__ceil__", [] | "__floor__", [] => return some content
  | "__len__", [] =>
      match ← plainSize? content with
      | some size => return some (.integer size)
      | none => return none
  | "__getitem__", [index] => return some (← memberOfContent owner content index)
  | "__setitem__", [index, value] =>
      setItem content index value
      return some .nothing
  | "__delitem__", [index] =>
      removeItem content index
      return some .nothing
  | "__contains__", [item] => return some (.bool (← holdsItem content item))
  | "__iter__", [] => return some (← iterate content)
  | "__reversed__", [] => return some (← reversedStream content)
  | _, _ => return none

/-- The names that a value has, in order. -/
def namesOf (value : ScriptValue) : ScriptRun (List Text) := do
  let own ← match value with
    | .object place =>
        match ← objectAt place with
        | .instance found => pure (some found.names)
        | .module _ names => pure (some names)
        | .function function => pure (some function.names)
        | _ => pure none
    | _ => pure none
  let places ← do
    let ownKind ← if ← isKind value then pure value else kindOf value
    let kinds ← orderOf ownKind
    let made ← kinds.filterMapM madeKind?
    pure (own.toList ++ made.map fun made => made.names)
  let mut names : List Text := []
  for place in places do
    for entry in (← entriesAt place) do
      match entry.1 with
      | .text name => names := if names.contains name then names else name :: names
      | _ => pure ()
  return Text.sort names

/-- The special methods of the kinds of the library. -/
def specialMethod (name : String) (owner : ScriptValue) (arguments : ScriptArguments) :
    ScriptRun ScriptValue := do
  let given := arguments.given
  match name, given with
  | "__init__", _ =>
      beginPlainly owner arguments
      return .nothing
  | "__repr__", [] => return .text (← plainDisplay owner)
  | "__str__", [] =>
      match ← instance? owner with
      | some found => return .text (← plainShownIn maxNesting owner found)
      | none => return .text (← shownText owner)
  | "__hash__", [] =>
      let content ← contentOf owner
      let found ← if content == owner then plainHash? owner else hashIn? maxMembers content
      return (found.map .integer).getD .unknown
  | "__format__", [format] =>
      let format ← textOf format fun kind =>
        ("__format__() argument must be str, not " : Text) ++ kind
      if format.isEmpty then return .text (← shownText owner)
      return .text (← formattedBy (← contentOf owner) format)
  | "__getattribute__", [key] =>
      let key ← textOf key fun kind =>
        ("attribute name must be string, not " : Text) ++ Quoted.ofText kind
      match ← instance? owner with
      | some found => instanceAttribute owner found key
      | none => attributeOf owner key
  | "__setattr__", [key, value] =>
      let key ← textOf key fun kind =>
        ("attribute name must be string, not " : Text) ++ Quoted.ofText kind
      match ← instance? owner with
      | some found => setOwnAttribute owner found key value
      | none =>
          match owner, ← madeKind? owner with
          | .object place, some made => setOfClass place made key value
          | _, _ => setAttribute owner key value
      return .nothing
  | "__delattr__", [key] =>
      let key ← textOf key fun kind =>
        ("attribute name must be string, not " : Text) ++ Quoted.ofText kind
      match ← instance? owner with
      | some found => removeOwnAttribute owner found key
      | none => removeAttribute owner key
      return .nothing
  | "__dir__", [] => newList ((← namesOf owner).map .text)
  | "__init_subclass__", _ =>
      if !arguments.named.isEmpty then
        refuseType ((← pathOfKind owner) ++ ".__init_subclass__() takes no keyword arguments")
      return .nothing
  | "__subclasshook__", _ => return .unsupported
  | "__enter__", [] => return owner
  | "__exit__", _ => return .nothing
  | _, _ =>
      if let some mark := orderMarkOfMethod? name then
        match given with
        | [other] => return ← compareByKind mark owner other
        | _ =>
            refuseType (("expected 1 argument, got " : Text) ++ Text.ofNat given.length)
      if let some found ← operateByKind? name owner given then return found
      if let some found ← valueByKind? name owner given then return found
      return .unknown

end ScriptRun

end EventForge
