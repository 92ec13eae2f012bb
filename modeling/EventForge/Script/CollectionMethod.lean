import EventForge.Script.Binding
import EventForge.Script.Operation

/-!
# Methods of collections

Lists, mappings and sets are changed in their places.  Sorting keeps the order of members of which
neither is less than the other.
-/

namespace EventForge

namespace ScriptRun

/-- Two sorted lists in one; members of the second one only come first where they are less.  The
fuel bounds the number of the members. -/
def mergeSorted {Item : Type} (less : Item → Item → ScriptRun Bool) :
    Nat → List Item → List Item → Array Item → ScriptRun (Array Item)
  | 0, _, _, found => return found
  | _, [], seconds, found => return found ++ seconds.toArray
  | _, firsts, [], found => return found ++ firsts.toArray
  | fuel + 1, first :: firsts, second :: seconds, found => do
      if ← less second first then
        mergeSorted less fuel (first :: firsts) seconds (found.push second)
      else mergeSorted less fuel firsts (second :: seconds) (found.push first)

/-- Sorts a list.  The fuel bounds how often it is halved. -/
def sortedBy {Item : Type} (less : Item → Item → ScriptRun Bool) :
    Nat → List Item → ScriptRun (List Item)
  | 0, items => return items
  | _, [] => return []
  | _, [item] => return [item]
  | fuel + 1, items => do
      let half := items.length / 2
      let firsts ← sortedBy less fuel (items.take half)
      let seconds ← sortedBy less fuel (items.drop half)
      return (← mergeSorted less (items.length + 1) firsts seconds #[]).toList

/-- The members of a list in order, by what a function makes of them. -/
def sortedItems (items : List ScriptValue) (key : ScriptValue) (isReversed : Bool) :
    ScriptRun (List ScriptValue) := do
  let keyed ← items.mapM fun item => do
    let rank ← if key == .nothing then pure item else call key [item]
    return (rank, item)
  let less (first second : ScriptValue × ScriptValue) : ScriptRun Bool := isLess first.1 second.1
  let given := if isReversed then keyed.reverse else keyed
  let found ← sortedBy less 64 given
  let found := if isReversed then found.reverse else found
  return found.map fun entry => entry.2

/-- The named arguments of sorting. -/
def sortingArguments (arguments : ScriptArguments) : ScriptRun (ScriptValue × Bool) := do
  if !arguments.given.isEmpty then refuseType "sort() takes no positional arguments"
  let places ← namedArguments "sort" ["key", "reverse"] 0 arguments
  let isReversed ← indexOf (argument places 1 (.bool false))
  return (argument places 0 .nothing, isReversed != 0)

/-- The place of a member between two bounds, if there is one. -/
def placeOfItem? (items : List ScriptValue) (given : List ScriptValue) :
    ScriptRun (Option Nat) := do
  let length : Int := items.length
  let clamped (bound : Int) : Nat :=
    (max 0 (min length (if bound < 0 then bound + length else bound))).toNat
  let start := clamped (← indexBound (given.getD 1 (.integer 0)))
  let stop := clamped (← indexBound (given.getD 2 (.integer length)))
  findPlace (given.headD .nothing) start ((items.take stop).drop start)

/-- Puts an item into a list in front of a place. -/
def insertAt (items : List ScriptValue) (index : Int) (item : ScriptValue) : List ScriptValue :=
  let length : Int := items.length
  let place := (max 0 (min length (if index < 0 then index + length else index))).toNat
  items.take place ++ item :: items.drop place

/-- The methods of lists. -/
def listMethod (name : String) (owner : ScriptValue) (place : ObjectPlace)
    (items : Array ScriptValue) (arguments : ScriptArguments) : ScriptRun ScriptValue := do
  let long := ("list." : Text) ++ Text.ofString name
  let keepItems (items : List ScriptValue) : ScriptRun ScriptValue := do
    setObject place (.list items.toArray)
    return .nothing
  match name with
  | "append" =>
      let item ← oneArgument long arguments
      changeObject place fun object =>
        match object with
        | .list items => .list (items.push item)
        | other => other
      return .nothing
  | "extend" =>
      let more ← itemsOf (← oneArgument long arguments)
      changeObject place fun object =>
        match object with
        | .list items => .list (items ++ more.toArray)
        | other => other
      return .nothing
  | "clear" =>
      noArguments long arguments
      keepItems []
  | "copy" =>
      noArguments long arguments
      newList items.toList
  | "reverse" =>
      noArguments long arguments
      keepItems items.toList.reverse
  | "count" =>
      let item ← oneArgument long arguments
      return .integer (← items.toList.filterM (alike · item)).length
  | "index" =>
      let given ← plainArguments long 1 (some 3) arguments
      match ← placeOfItem? items.toList given with
      | some found => return .integer found
      | none => refuseValue ((← displayText (given.headD .nothing)) ++ " is not in list")
  | "insert" =>
      let given ← plainArguments long 2 (some 2) arguments
      keepItems (insertAt items.toList (← indexOf (given.getD 0 .nothing)) (given.getD 1 .nothing))
  | "pop" =>
      let given ← plainArguments long 0 (some 1) arguments
      let index ← match given with
        | index :: _ => indexOf index
        | [] => pure (-1)
      if items.isEmpty then refuse "IndexError" "pop from empty list"
      match placeAt? index items.size with
      | none => refuse "IndexError" "pop index out of range"
      | some found =>
          if found + 1 = items.size then setObject place (.list items.pop)
          else setObject place (.list (items.toList.eraseIdx found).toArray)
          return items.getD found .nothing
  | "remove" =>
      let item ← oneArgument long arguments
      match ← findPlace item 0 items.toList with
      | some found => keepItems (items.toList.eraseIdx found)
      | none => refuseValue "list.remove(x): x not in list"
  | "sort" =>
      let (key, isReversed) ← sortingArguments arguments
      keepItems (← sortedItems items.toList key isReversed)
  | _ =>
      let _ := owner
      return .unknown

/-- The methods of queues with two ends. -/
def queueMethod (name : String) (owner : ScriptValue) (place : ObjectPlace)
    (items : Array ScriptValue) (arguments : ScriptArguments) : ScriptRun ScriptValue := do
  let long := ("deque." : Text) ++ Text.ofString name
  let limit : Option Nat ←
    match ← attribute? owner "maxlen" with
    | some (.integer limit) => pure (some limit.toNat)
    | _ => pure none
  let fromEnd (items : List ScriptValue) : List ScriptValue :=
    items.drop (items.length - limit.getD items.length)
  let fromStart (items : List ScriptValue) : List ScriptValue :=
    items.take (limit.getD items.length)
  let keepItems (items : List ScriptValue) : ScriptRun ScriptValue := do
    setObject place (.list items.toArray)
    return .nothing
  let items := items.toList
  match name with
  | "append" => keepItems (fromEnd (items ++ [← oneArgument long arguments]))
  | "appendleft" => keepItems (fromStart ((← oneArgument long arguments) :: items))
  | "extend" => keepItems (fromEnd (items ++ (← itemsOf (← oneArgument long arguments))))
  | "extendleft" =>
      keepItems (fromStart ((← itemsOf (← oneArgument long arguments)).reverse ++ items))
  | "pop" | "popleft" =>
      noArguments long arguments
      if items.isEmpty then refuse "IndexError" "pop from an empty deque"
      if name == "pop" then
        let _ ← keepItems items.dropLast
        return (items.getLast?).getD .nothing
      let _ ← keepItems (items.drop 1)
      return items.headD .nothing
  | "rotate" =>
      let given ← plainArguments long 0 (some 1) arguments
      let steps ← match given with
        | steps :: _ => indexOf steps
        | [] => pure 1
      if items.isEmpty then return .nothing
      let shift := (steps.emod items.length).toNat
      keepItems (items.drop (items.length - shift) ++ items.take (items.length - shift))
  | "copy" =>
      noArguments long arguments
      newInstance (← kindOf owner) (← newList items)
        [("maxlen", (← attribute? owner "maxlen").getD .nothing)]
  | "remove" =>
      let item ← oneArgument long arguments
      match ← findPlace item 0 items with
      | some found => keepItems (items.eraseIdx found)
      | none => refuseValue "deque.remove(x): x not in deque"
  | "index" =>
      let given ← plainArguments long 1 (some 3) arguments
      match ← placeOfItem? items given with
      | some found => return .integer found
      | none => refuseValue ((← displayText (given.headD .nothing)) ++ " is not in deque")
  | other => listMethod other owner place items.toArray arguments

/-- The value of an entry, or a standard value. -/
def entryOr (place : ObjectPlace) (given : List ScriptValue) : ScriptRun ScriptValue := do
  return (← valueUnder? place (given.headD .nothing)).getD (given.getD 1 .nothing)

/-- Puts the entries of the arguments of an update into a mapping. -/
def updateMapping (place : ObjectPlace) (arguments : ScriptArguments) : ScriptRun Unit := do
  let most ← plainArguments "update" 0 (some 1) { given := arguments.given }
  if let some source := most.head? then
    putEntries place (← entriesFrom source)
  arguments.named.forM fun entry => putUnder place (.text entry.1) entry.2

/-- Adds counts to those of a counter, or takes them away. -/
def addCounts (place : ObjectPlace) (sign : Int) (arguments : ScriptArguments) :
    ScriptRun Unit := do
  let add (key : ScriptValue) (number : ScriptValue) : ScriptRun Unit := do
    let before := (← valueUnder? place key).getD (.integer 0)
    putUnder place key (← operate (if sign < 0 then "-" else "+") before number)
  let most ← plainArguments "update" 0 (some 1) { given := arguments.given }
  match most with
  | [] | [.nothing] => pure ()
  | source :: _ =>
      match ← entries? (← contentOf source) with
      | some entries => entries.forM fun entry => add entry.1 entry.2
      | none => (← itemsOf source).forM fun item => add item (.integer 1)
  arguments.named.forM fun entry => add (.text entry.1) entry.2

/-- A copy of a mapping, of the same kind. -/
def copyMapping (owner : ScriptValue) (entries : Array (ScriptValue × ScriptValue)) :
    ScriptRun ScriptValue := do
  let content ← keep (.mapping entries)
  match ← instance? owner with
  | some found =>
      let known := (← orderOf found.kind).find? fun kind =>
        match kind with
        | .kind _ => true
        | _ => false
      match known with
      | some (.kind "dict") | none => return .object content
      | some kind =>
          keepValue (.instance { found with
            kind, content := .object content, names := ← keep (.mapping (← entriesAt found.names)) })
  | none => return .object content

/-- The methods of mappings. -/
def mappingMethod (name : String) (owner : ScriptValue) (place : ObjectPlace)
    (entries : Array (ScriptValue × ScriptValue)) (arguments : ScriptArguments) :
    ScriptRun ScriptValue := do
  let long := ("dict." : Text) ++ Text.ofString name
  let isCounter ← isOf owner "collections.Counter"
  let view (part : EntryPart) : ScriptRun ScriptValue := do
    noArguments long arguments
    keepValue (.view place part)
  match name with
  | "keys" => view .key
  | "values" => view .value
  | "items" => view .both
  | "get" => entryOr place (← plainArguments long 1 (some 2) arguments)
  | "pop" =>
      let given ← plainArguments long 1 (some 2) arguments
      match ← takeUnder? place (given.headD .nothing), given with
      | some value, _ => return value
      | none, [_, standard] => return standard
      | none, _ => raiseWith "KeyError" [given.headD .nothing]
  | "popitem" =>
      if !(← isOf owner "collections.OrderedDict") then noArguments "dict.popitem" arguments
      let last := argument (← namedArguments long ["last"] 0 arguments) 0 (.bool true)
      let isLast ← isTrue last
      match if isLast then entries.back? else entries[0]? with
      | some entry =>
          let rest := if isLast then entries.pop else (entries.toList.drop 1).toArray
          setObject place (.mapping rest)
          return .tuple [entry.1, entry.2]
      | none => raiseWith "KeyError" [.text "popitem(): dictionary is empty"]
  | "setdefault" =>
      let given ← plainArguments long 1 (some 2) arguments
      match ← valueUnder? place (given.headD .nothing) with
      | some value => return value
      | none =>
          let value := given.getD 1 .nothing
          putUnder place (given.headD .nothing) value
          return value
  | "update" =>
      if isCounter then addCounts place 1 arguments else updateMapping place arguments
      return .nothing
  | "subtract" =>
      addCounts place (-1) arguments
      return .nothing
  | "clear" =>
      noArguments long arguments
      setObject place (.mapping #[])
      return .nothing
  | "copy" =>
      noArguments long arguments
      copyMapping owner entries
  | "most_common" =>
      let given ← plainArguments "most_common" 0 (some 1) arguments
      let found := (byCount entries.toList).map fun entry => ScriptValue.tuple [entry.1, entry.2]
      match given with
      | [.integer most] => newList (found.take most.toNat)
      | _ => newList found
  | "elements" =>
      newStream (.values (entries.toList.flatMap fun entry =>
        List.replicate ((entry.2.integer?).getD 0).toNat entry.1))
  | "total" =>
      entries.toList.foldlM (fun total entry => operate "+" total entry.2) (.integer 0)
  | "move_to_end" =>
      let places ← namedArguments "move_to_end" ["key", "last"] 1 arguments
      let key := argument places 0 .nothing
      match ← takeUnder? place key with
      | none => raiseWith "KeyError" [key]
      | some value =>
          let rest ← entriesAt place
          if ← isTrue (argument places 1 (.bool true)) then
            setObject place (.mapping (rest.push (key, value)))
          else setObject place (.mapping (#[(key, value)] ++ rest))
          return .nothing
  | _ => return .unknown

/-- A mapping with the same value under all keys. -/
def mappingOfKeys (kind : ScriptValue) (arguments : ScriptArguments) : ScriptRun ScriptValue := do
  let given ← plainArguments "fromkeys" 1 (some 2) arguments
  let place ← keep (.mapping #[])
  (← itemsOf (given.headD .nothing)).forM fun key => putUnder place key (given.getD 1 .nothing)
  match kind with
  | .kind "dict" => return .object place
  | kind => newInstance kind (.object place) []

/-- The members of all of some collections. -/
def allItems (given : List ScriptValue) : ScriptRun (List (List ScriptValue)) := given.mapM itemsOf

/-- The methods of sets. -/
def setMethod (name : String) (owner : ScriptValue) (place : ObjectPlace)
    (items : Array ScriptValue) (isFrozen : Bool) (arguments : ScriptArguments) :
    ScriptRun ScriptValue := do
  let long := (if isFrozen then ("frozenset." : Text) else "set.") ++ Text.ofString name
  let own := items.toList
  let keepItems (items : List ScriptValue) : ScriptRun ScriptValue := do
    setObject place (.set (ScriptHash.ordered items.toArray) isFrozen)
    return .nothing
  let combined (mark : String) : ScriptRun (List ScriptValue) := do
    refuseNames long arguments
    (← allItems arguments.given).foldlM (fun found others => do
      let others := (← distinct others).toList
      return (← setOperation mark found others).getD found) own
  let only (mark : String) : ScriptRun (List ScriptValue) := do
    let others := (← distinct (← itemsOf (← oneArgument long arguments))).toList
    return (← setOperation mark own others).getD own
  match name with
  | "add" =>
      let item ← oneArgument long arguments
      requireKey item
      if !(← own.anyM (alike · item)) then
        changeObject place fun object =>
          match object with
          | .set items isFrozen => .set (ScriptHash.ordered (items.push item)) isFrozen
          | other => other
      return .nothing
  | "discard" | "remove" =>
      let item ← oneArgument long arguments
      requireKey item
      match ← findPlace item 0 own with
      | some found => keepItems (own.eraseIdx found)
      | none => if name == "remove" then raiseWith "KeyError" [item] else return .nothing
  | "pop" =>
      noArguments long arguments
      match own with
      | item :: rest =>
          let _ ← keepItems rest
          return item
      | [] => raiseWith "KeyError" [.text "pop from an empty set"]
  | "clear" =>
      noArguments long arguments
      keepItems []
  | "copy" =>
      noArguments long arguments
      newSet own isFrozen
  | "union" => newSet (← combined "|") isFrozen
  | "intersection" => newSet (← combined "&") isFrozen
  | "difference" => newSet (← combined "-") isFrozen
  | "symmetric_difference" => newSet (← only "^") isFrozen
  | "update" => keepItems (← combined "|")
  | "intersection_update" => keepItems (← combined "&")
  | "difference_update" => keepItems (← combined "-")
  | "symmetric_difference_update" => keepItems (← only "^")
  | "issubset" =>
      let others ← itemsOf (← oneArgument long arguments)
      return .bool (← allAmong alike others own)
  | "issuperset" =>
      let others ← itemsOf (← oneArgument long arguments)
      return .bool (← allAmong alike own others)
  | "isdisjoint" =>
      let others ← itemsOf (← oneArgument long arguments)
      return .bool (← membersAmong true others own).isEmpty
  | _ =>
      let _ := owner
      return .unknown

/-- The methods of tuples and ranges. -/
def tupleMethod (kind : Text) (name : String) (items : List ScriptValue)
    (arguments : ScriptArguments) : ScriptRun ScriptValue := do
  match name with
  | "count" =>
      let item ← oneArgument (kind ++ ".count") arguments
      return .integer (← items.filterM (alike · item)).length
  | "index" =>
      let given ← plainArguments (kind ++ ".index") 1 (some 3) arguments
      match ← placeOfItem? items given with
      | some found => return .integer found
      | none =>
          if kind = ("range" : Text) then
            refuseValue ((← displayText (given.headD .nothing)) ++ " is not in range")
          refuseValue "tuple.index(x): x not in tuple"
  | _ => return .unknown

/-- The methods of rows of bytes that can change. -/
def bufferMethod? (name : String) (place : ObjectPlace) (content : Bytes)
    (arguments : ScriptArguments) : ScriptRun (Option ScriptValue) := do
  let long := ("bytearray." : Text) ++ Text.ofString name
  let keepBytes (content : Bytes) : ScriptRun (Option ScriptValue) := do
    setObject place (.buffer content)
    return some .nothing
  match name with
  | "append" => keepBytes (content ++ [← byteOf (← oneArgument long arguments)])
  | "extend" => keepBytes (content ++ (← (← itemsOf (← oneArgument long arguments)).mapM byteOf))
  | "clear" => keepBytes []
  | "reverse" => keepBytes content.reverse
  | "copy" => return some (← keepValue (.buffer content))
  | "pop" =>
      let given ← plainArguments long 0 (some 1) arguments
      let index ← match given with
        | index :: _ => indexOf index
        | [] => pure (-1)
      match placeAt? index content.length with
      | none => refuse "IndexError" "pop index out of range"
      | some found =>
          setObject place (.buffer (content.eraseIdx found))
          return some (.integer (content.getD found 0).toNat)
  | "insert" =>
      match ← plainArguments long 2 (some 2) arguments with
      | index :: byte :: _ =>
          let index ← indexOf index
          let length : Int := content.length
          let found := (max 0 (min length (if index < 0 then index + length else index))).toNat
          keepBytes (content.take found ++ (← byteOf byte) :: content.drop found)
      | _ => return none
  | "remove" =>
      let byte ← byteOf (← oneArgument long arguments)
      if !content.contains byte then refuseValue "value not found in bytearray"
      keepBytes (content.erase byte)
  | _ => return none

end ScriptRun

end EventForge
