import EventForge.Script.Iteration

/-!
# Members of collections by their places and keys

A place counts from the start, or from the end if it is negative.  A slice stands for the members at
several places.
-/

namespace EventForge

/-- The places that a slice stands for. -/
structure SlicePlaces where
  start : Int
  step : Int
  count : Nat
deriving DecidableEq, Repr, Inhabited

namespace SlicePlaces

/-- The places, in the order of the slice. -/
def places (slice : SlicePlaces) : List Nat :=
  (List.range slice.count).map fun (index : Nat) => (slice.start + index * slice.step).toNat

/-- The places of a slice of a sequence of some length. -/
def ofBounds (start stop step : Option Int) (length : Nat) : SlicePlaces :=
  let step := step.getD 1
  let length : Int := length
  let clamped (bound : Int) : Int :=
    let bound := if bound < 0 then bound + length else bound
    if step < 0 then max (-1) (min bound (length - 1)) else max 0 (min bound length)
  let start :=
    match start with
    | some start => clamped start
    | none => if step < 0 then length - 1 else 0
  let stop :=
    match stop with
    | some stop => clamped stop
    | none => if step < 0 then -1 else length
  { start, step, count := ScriptValue.rangeSize start stop step }

/-- The members at the places of a slice. -/
def pick {Item : Type} (slice : SlicePlaces) (items : List Item) : List Item :=
  if slice.step = 1 then (items.drop slice.start.toNat).take slice.count
  else
    let items := items.toArray
    slice.places.filterMap (items[·]?)

end SlicePlaces

namespace ScriptRun

/-- A bound of a slice. -/
def bound? (value : ScriptValue) : ScriptRun (Option Int) := do
  match value with
  | .nothing => return none
  | value =>
      match ← index? value with
      | some number => return some number
      | none =>
          refuseType "slice indices must be integers or None or have an __index__ method"

/-- A bound that cannot be left open. -/
def indexBound (value : ScriptValue) : ScriptRun Int := do
  match ← index? value with
  | some number => return number
  | none => refuseType "slice indices must be integers or have an __index__ method"

/-- The places that a slice stands for in a sequence. -/
def slicePlaces (start stop step : ScriptValue) (length : Nat) : ScriptRun SlicePlaces := do
  let step ← bound? step
  if step = some 0 then refuseValue "slice step cannot be zero"
  return .ofBounds (← bound? start) (← bound? stop) step length

/-- The place that an index names in a sequence, if there is one. -/
def placeAt? (index : Int) (length : Nat) : Option Nat :=
  let place := if index < 0 then index + length else index
  if 0 ≤ place && place < length then some place.toNat else none

/-- An integer that is small enough for an index. -/
def fittingIndex (number : Int) : ScriptRun Int := do
  if number < -(twoTo 63) || twoTo 63 ≤ number then
    refuse "IndexError" "cannot fit 'int' into an index-sized integer"
  return number

/-- A member of a sequence, or those of a slice. -/
def memberOf (items : List ScriptValue) (index : ScriptValue) (beyond : Text)
    (refused : Text → Text) (sliced : List ScriptValue → ScriptRun ScriptValue) :
    ScriptRun ScriptValue := do
  match index with
  | .slice start stop step =>
      sliced ((← slicePlaces start stop step items.length).pick items)
  | index =>
      match ← index? index with
      | some number =>
          match (placeAt? (← fittingIndex number) items.length).bind (items[·]?) with
          | some member => return member
          | none => refuse "IndexError" beyond
      | none => refuseType (refused (← kindName index))

/-- What a sequence of a kind says about other indices. -/
def refusedIndex (kind other : Text) : Text :=
  kind ++ " indices must be integers or slices, not " ++ other

def textOfPoints (items : List ScriptValue) : Text :=
  items.flatMap fun item =>
    match item with
    | .text content => content
    | _ => []

def bytesOfItems (items : List ScriptValue) : Bytes :=
  items.filterMap fun item => item.integer?.map fun number => UInt8.ofNat number.toNat

/-- The value under a key of a mapping, where its class can stand in for a missing one. -/
def entryOf (owner : ScriptValue) (mapping : ObjectPlace) (key : ScriptValue) :
    ScriptRun ScriptValue := do
  match ← valueUnder? mapping key with
  | some found => return found
  | none =>
      match ← method? owner "__missing__" with
      | some method => call method [key]
      | none =>
          if ← isOf owner "collections.Counter" then return .integer 0
          if ← isOf owner "collections.defaultdict" then
            let factory ← attribute? owner "default_factory"
            match factory with
            | some .nothing | none => raiseWith "KeyError" [key]
            | some factory =>
                let value ← call factory []
                putUnder mapping key value
                return value
          raiseWith "KeyError" [key]

/-- The value in a row under a name or at a place. -/
def cellOf (names : List Text) (cells : List ScriptValue) (index : ScriptValue) :
    ScriptRun ScriptValue := do
  match index with
  | .text name =>
      match names.findIdx? fun found => found.toAsciiLower = name.toAsciiLower with
      | some place => return cells.getD place .nothing
      | none => refuse "IndexError" "No item with that key"
  | .slice start stop step =>
      return .tuple ((← slicePlaces start stop step cells.length).pick cells)
  | index =>
      match ← index? index with
      | some number =>
          match (placeAt? number cells.length).bind (cells[·]?) with
          | some cell => return cell
          | none => refuse "IndexError" "Index must be int or string"
      | none => refuse "IndexError" "Index must be int or string"

/-- Kinds that can be said to hold values of a kind. -/
def holdingKinds : List String := [
  "list", "dict", "set", "tuple", "type", "frozenset", "enumerate", "filter", "map", "zip",
  "reversed", "collections.deque", "collections.defaultdict", "collections.OrderedDict",
  "collections.Counter", "staticmethod", "classmethod", "property"]

/-- A member of a value of the library. -/
def memberOfContent (owner content index : ScriptValue) : ScriptRun ScriptValue := do
  match content with
  | .unknown => return .unknown
  | .text points =>
      memberOf (points.map fun point => .text [point]) index "string index out of range"
        (fun other => ("string indices must be integers, not " : Text) ++ Quoted.ofText other)
        fun items => return .text (textOfPoints items)
  | .tuple items =>
      memberOf items index "tuple index out of range" (refusedIndex "tuple")
        fun items => return .tuple items
  | .bytes bytes =>
      memberOf (bytes.map fun byte => .integer byte.toNat) index "index out of range"
        (refusedIndex "byte") fun items => return .bytes (bytesOfItems items)
  | .range start stop step =>
      match index with
      | .slice first last stride =>
          let places ← slicePlaces first last stride (ScriptValue.rangeSize start stop step)
          let first := start + places.start * step
          return .range first (first + places.count * (places.step * step)) (places.step * step)
      | index =>
          memberOf (ScriptValue.rangeItems start stop step) index "range object index out of range"
            (refusedIndex "range") fun items => return .tuple items
  | .kind "typing.ClassVar" | .kind "dataclasses.InitVar" => return content
  | .kind name =>
      if holdingKinds.contains name || name.toList.contains '.' then return .unknown
      refuseType (("type " : Text) ++ Quoted.ofText (KnownKind.shownName name) ++
        " is not subscriptable")
  | .object place =>
      match ← objectAt place with
      | .list items =>
          if ← isOf owner "collections.deque" then
            return ← memberOf items.toList index "deque index out of range"
              (fun other => ("sequence index must be integer, not " : Text) ++ Quoted.ofText other)
              newList
          memberOf items.toList index "list index out of range" (refusedIndex "list") newList
      | .mapping _ => entryOf owner place index
      | .buffer bytes =>
          memberOf (bytes.map fun byte => .integer byte.toNat) index "bytearray index out of range"
            (refusedIndex "bytearray") fun items => keepValue (.buffer (bytesOfItems items))
      | .row names cells => cellOf names cells index
      | .madeKind made =>
          if made.order.contains (.kind "enum.Enum") then
            match index with
            | .text name =>
                match ← field? made.names name with
                | some member => if (← kindOf member) == content then return member
                | none => pure ()
            | _ => pure ()
            raiseWith "KeyError" [index]
          match ← madeMember? content "__class_getitem__" with
          | some member => call (← bindMember member none content) [index]
          | none =>
              if made.order.any fun kind =>
                  match kind with
                  | .kind name => holdingKinds.contains name || name == "typing.Generic"
                  | _ => false then return .unknown
              refuseType (("type " : Text) ++ Quoted.ofText made.name ++ " is not subscriptable")
      | .marker _ => return content
      | _ => refuseSubscript
  | _ => refuseSubscript
where
  refuseSubscript : ScriptRun ScriptValue := do
    refuseType (Quoted.ofText (← kindName owner) ++ " object is not subscriptable")

/-- The member of a value that an index names. -/
def itemAt (owner index : ScriptValue) : ScriptRun ScriptValue := do
  match ← method? owner "__getitem__" with
  | some method => call method [index]
  | none => memberOfContent owner (← contentOf owner) index

/-- A list with the members of a slice replaced by others. -/
def withSlice (items : List ScriptValue) (places : SlicePlaces) (isPlain : Bool)
    (others : List ScriptValue) : ScriptRun (List ScriptValue) := do
  if isPlain && places.step = 1 then
    let start := places.start.toNat
    return items.take start ++ others ++ items.drop (start + places.count)
  if others.length ≠ places.count then
    refuseValue (("attempt to assign sequence of size " : Text) ++ Text.ofNat others.length ++
      " to extended slice of size " ++ Text.ofNat places.count)
  let changed := (places.places.zip others).foldl
    (fun (found : Array ScriptValue) entry => found.setIfInBounds entry.1 entry.2) items.toArray
  return changed.toList

/-- A byte that a value stands for. -/
def byteOf (value : ScriptValue) : ScriptRun UInt8 := do
  let number ← indexOf value
  if number < 0 || 255 < number then refuseValue "byte must be in range(0, 256)"
  return UInt8.ofNat number.toNat

/-- Puts a value at a place or under a key. -/
def setItem (owner index value : ScriptValue) : ScriptRun Unit := do
  match ← method? owner "__setitem__" with
  | some method =>
      let _ ← call method [index, value]
  | none =>
      match ← contentOf owner with
      | .unknown => return ()
      | .object place =>
          match ← objectAt place with
          | .mapping _ => putUnder place index value
          | .list items =>
              let isQueue ← isOf owner "collections.deque"
              match index with
              | .slice start stop step =>
                  let others ← membersFor value
                  let places ← slicePlaces start stop step items.size
                  let isPlain := step == .nothing || step == .integer 1
                  setObject place
                    (.list (← withSlice items.toList places isPlain others).toArray)
              | index =>
                  match ← index? index with
                  | some number =>
                      match placeAt? (← fittingIndex number) items.size with
                      | some found =>
                          changeObject place fun object =>
                            match object with
                            | .list items => .list (items.setIfInBounds found value)
                            | other => other
                      | none =>
                          refuse "IndexError" (if isQueue then ("deque index out of range" : Text)
                            else "list assignment index out of range")
                  | none =>
                      refuseType (refusedIndex "list" (← kindName index))
          | .buffer content =>
              match index with
              | .slice start stop step =>
                  let places ← slicePlaces start stop step content.length
                  let given ← (← itemsOf value).mapM byteOf
                  let isPlain := step == .nothing || step == .integer 1
                  let items ← withSlice (content.map fun byte => .integer byte.toNat) places isPlain
                    (given.map fun byte => .integer byte.toNat)
                  setObject place (.buffer (bytesOfItems items))
              | index =>
                  let number ← indexOf index
                  let byte ← byteOf value
                  match placeAt? number content.length with
                  | some found => setObject place (.buffer (content.set found byte))
                  | none => refuse "IndexError" "bytearray index out of range"
          | _ => refuseAssignment
      | _ => refuseAssignment
where
  refuseAssignment : ScriptRun Unit := do
    refuseType (Quoted.ofText (← kindName owner) ++ " object does not support item assignment")
  membersFor (value : ScriptValue) : ScriptRun (List ScriptValue) :=
    tryCatch (itemsOf value) fun stop => do
      if ← isFaultOf stop "TypeError" then refuseType "can only assign an iterable" else throw stop

/-- Removes the member at a place or under a key. -/
def removeItem (owner index : ScriptValue) : ScriptRun Unit := do
  match ← method? owner "__delitem__" with
  | some method =>
      let _ ← call method [index]
  | none =>
      match ← contentOf owner with
      | .unknown => return ()
      | .object place =>
          match ← objectAt place with
          | .mapping _ =>
              if (← takeUnder? place index).isNone then raiseWith "KeyError" [index]
          | .list items =>
              match ← removedPlaces items.size "list" "list assignment index out of range" with
              | some places => setObject place (.list (without places items.toList).toArray)
              | none => return ()
          | .buffer content =>
              match ← removedPlaces content.length "bytearray" "bytearray index out of range" with
              | some places => setObject place (.buffer (without places content))
              | none => return ()
          | .instance _ | .madeKind _ => refuseRemoval "doesn't"
          | _ => refuseRemoval "does not"
      | .text _ | .tuple _ | .bytes _ | .range _ _ _ => refuseRemoval "doesn't"
      | _ => refuseRemoval "does not"
where
  refuseRemoval (verb : Text) : ScriptRun Unit := do
    refuseType (Quoted.ofText (← kindName owner) ++ " object " ++ verb ++
      " support item deletion")
  without {Item : Type} (places : List Nat) (items : List Item) : List Item :=
    (items.zipIdx.filter fun entry => !places.contains entry.2).map fun entry => entry.1
  removedPlaces (length : Nat) (kind beyond : Text) : ScriptRun (Option (List Nat)) := do
    match index with
    | .slice start stop step => return some (← slicePlaces start stop step length).places
    | index =>
        match ← index? index with
        | some number =>
            match placeAt? (← fittingIndex number) length with
            | some found => return some [found]
            | none => refuse "IndexError" beyond
        | none => refuseType (refusedIndex kind (← kindName index))

/-- Whether one row of bytes stands inside another. -/
def hasPart (part : Bytes) : Bytes → Bool
  | [] => part.isEmpty
  | byte :: bytes => part.isPrefixOf (byte :: bytes) || hasPart part bytes

/-- Whether one of the members of a stream is equal to a value. -/
def streamHolds (stream item : ScriptValue) : Nat → ScriptRun Bool
  | 0 => throw .exhausted
  | fuel + 1 => do
      match ← next? stream with
      | none => return false
      | some value => if ← alike value item then return true else streamHolds stream item fuel

/-- Whether a value is a member of a collection. -/
def holdsItem (collection item : ScriptValue) : ScriptRun Bool := do
  match ← method? collection "__contains__" with
  | some method => isTrue (← call method [item])
  | none =>
      if (← method? collection "__iter__").isSome then
        return ← streamHolds (← iterate collection) item maxMembers
      match ← contentOf collection with
      | .unknown => return true
      | .text whole =>
          match ← contentOf item with
          | .text part => return whole.containsText part
          | .unknown => return true
          | _ =>
              refuseType (("'in <string>' requires string as left operand, not " : Text) ++
                (← kindName item))
      | .tuple items => items.anyM (alike · item)
      | .range start stop step =>
          match item.quantity? with
          | some _ => return (ScriptValue.rangeItems start stop step).any fun member =>
              (member.plainlyEqual? item).getD false
          | none => (ScriptValue.rangeItems start stop step).anyM (alike · item)
      | .bytes content => inBytes content
      | .object place =>
          match ← objectAt place with
          | .list items => items.toList.anyM (alike · item)
          | .mapping entries =>
              requireKey item
              return (← findEntry item entries).isSome
          | .set items _ =>
              requireKey item
              items.toList.anyM (alike · item)
          | .buffer content => inBytes content
          | .view mapping .key =>
              requireKey item
              return (← findEntry item (← entriesAt mapping)).isSome
          | .view mapping .value =>
              (← entriesAt mapping).toList.anyM fun entry => alike entry.2 item
          | .view mapping .both =>
              (← entriesAt mapping).toList.anyM fun entry => alike (.tuple [entry.1, entry.2]) item
          | .madeKind made =>
              if made.order.contains (.kind "enum.Enum") then
                return ((← membersOf collection).getD []).contains item
              refuseMembers
          | .stream _ | .row _ _ => streamHolds (← iterate collection) item maxMembers
          | .instance _ =>
              if (← method? collection "__getitem__").isSome then
                streamHolds (← iterate collection) item maxMembers
              else refuseMembers
          | _ => refuseMembers
      | _ => refuseMembers
where
  refuseMembers : ScriptRun Bool := do
    refuseType (("argument of type " : Text) ++ Quoted.ofText (← kindName collection) ++
      " is not iterable")
  inBytes (content : Bytes) : ScriptRun Bool := do
    match ← bytes? item with
    | some part => return hasPart part content
    | none =>
        match ← index? item with
        | some number =>
            if number < 0 || 255 < number then refuseValue "byte must be in range(0, 256)"
            return content.contains (UInt8.ofNat number.toNat)
        | none =>
            refuseType (("a bytes-like object is required, not " : Text) ++
              Quoted.ofText (← kindName item))

end ScriptRun

end EventForge
