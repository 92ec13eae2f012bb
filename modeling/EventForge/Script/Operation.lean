import EventForge.Script.TextTemplate

/-!
# Operators

The class of the first value decides what an operator does, and then the class of the second one; a
class below that of the first value comes before it.  An update changes its first value in its
place, where that can be changed.
-/

namespace EventForge

namespace ScriptRun

/-- The operators with the names of their methods. -/
def operatorNames : List (String × String) := [
  ("+", "add"), ("-", "sub"), ("*", "mul"), ("/", "truediv"), ("//", "floordiv"), ("%", "mod"),
  ("**", "pow"), ("@", "matmul"), ("<<", "lshift"), (">>", "rshift"), ("&", "and"), ("|", "or"),
  ("^", "xor")]

/-- The name of the method for an operator behind a lead. -/
def operatorMethod (lead mark : String) : Text :=
  let name := (operatorNames.find? fun entry => entry.1 == mark).map fun entry => entry.2
  Text.ofString ("__" ++ lead ++ name.getD "" ++ "__")

/-- The refusal of an operator for the kinds of two values. -/
def refuseKinds {Value : Type} (mark : Text) (first second : ScriptValue) : ScriptRun Value := do
  refuseType (("unsupported operand type(s) for " : Text) ++ mark ++ ": " ++
    Quoted.ofText (← kindName first) ++ " and " ++ Quoted.ofText (← kindName second))

/-- Asks a class about an operator. -/
def operateByClass? (method : Text) (first second : ScriptValue) :
    ScriptRun (Option ScriptValue) := do
  match ← method? first method with
  | none => return none
  | some method =>
      let result ← call method [second]
      return if result == .unsupported then none else some result

/-- The repetition of the members of a sequence. -/
def repetition {Item : Type} (items : List Item) (count : Int) : ScriptRun (List Item) := do
  if twoTo 63 ≤ count then refuseOverflow "cannot fit 'int' into an index-sized integer"
  if 10000000 < items.length * count.toNat then raiseWith "MemoryError" []
  return (List.replicate count.toNat items).flatten

/-- The repetition of a sequence, if a value is one. -/
def repeated? (sequence : ScriptValue) (count : Int) : ScriptRun (Option ScriptValue) := do
  match sequence with
  | .text content => return some (.text (← repetition content count))
  | .bytes content => return some (.bytes (← repetition content count))
  | .tuple items => return some (.tuple (← repetition items count))
  | .object place =>
      match ← objectAt place with
      | .list items => return some (← newList (← repetition items.toList count))
      | .buffer content => return some (← keepValue (.buffer (← repetition content count)))
      | _ => return none
  | _ => return none

/-- Whether a value is a sequence that can be repeated. -/
def isRepeatable (value : ScriptValue) : ScriptRun Bool := do return (← repeated? value 0).isSome

def product? (first second : ScriptValue) : ScriptRun (Option ScriptValue) := do
  let refuseCount (count : ScriptValue) : ScriptRun (Option ScriptValue) := do
    refuseType (("can't multiply sequence by non-int of type " : Text) ++
      Quoted.ofText (← kindName count))
  if ← isRepeatable first then
    match ← index? second with
    | some count => return ← repeated? first count
    | none => return ← refuseCount second
  if ← isRepeatable second then
    match ← index? first with
    | some count => return ← repeated? second count
    | none => return ← refuseCount first
  return none

/-- The refusal to put a value of another kind behind a sequence. -/
def refuseBehind (kind : Text) (second : ScriptValue) : ScriptRun (Option ScriptValue) := do
  refuseType (("can only concatenate " : Text) ++ kind ++ " (not \"" ++ (← kindName second) ++
    "\") to " ++ kind)

def concatenation? (first second other : ScriptValue) : ScriptRun (Option ScriptValue) := do
  match first, second with
  | .text left, .text right => return some (.text (left ++ right))
  | .text _, _ => refuseBehind "str" other
  | .tuple left, .tuple right => return some (.tuple (left ++ right))
  | .tuple _, _ => refuseBehind "tuple" other
  | first, second =>
      match ← bytes? first, ← bytes? second with
      | some left, some right =>
          match first with
          | .bytes _ => return some (.bytes (left ++ right))
          | _ => return some (← keepValue (.buffer (left ++ right)))
      | some _, none =>
          refuseType (("can't concat " : Text) ++ (← kindName other) ++ " to " ++
            (← kindName first))
      | none, _ =>
          match ← list? first, ← list? second with
          | some left, some right => return some (← newList (left ++ right))
          | some _, none => refuseBehind "list" other
          | none, _ => return none

/-- The members of some values that are among others, or that are not. -/
def membersAmong (isAmong : Bool) (others : List ScriptValue) (items : List ScriptValue) :
    ScriptRun (List ScriptValue) :=
  items.filterM fun item => do return (← others.anyM (alike · item)) == isAmong

/-- What an operator makes of the members of two sets. -/
def setOperation (mark : String) (first second : List ScriptValue) :
    ScriptRun (Option (List ScriptValue)) := do
  match mark with
  | "|" => return some (first ++ (← membersAmong false first second))
  | "&" => return some (← membersAmong true second first)
  | "-" => return some (← membersAmong false second first)
  | "^" =>
      return some ((← membersAmong false second first) ++ (← membersAmong false first second))
  | _ => return none

/-- The entries of a mapping with those of another put into it. -/
def putEntries (place : ObjectPlace) (entries : List (ScriptValue × ScriptValue)) :
    ScriptRun Unit :=
  entries.forM fun entry => putUnder place entry.1 entry.2

/-- What an operator makes of the counts of two counters. -/
def countOperation? (mark : String) (first second : Array (ScriptValue × ScriptValue)) :
    ScriptRun (Option (List (ScriptValue × ScriptValue))) := do
  let combine (left right : Int) : Option Int :=
    match mark with
    | "+" => some (left + right)
    | "-" => some (left - right)
    | "|" => some (max left right)
    | "&" => some (min left right)
    | _ => none
  let count (entries : Array (ScriptValue × ScriptValue)) (key : ScriptValue) : ScriptRun Int := do
    return (((← findEntry key entries).bind (entries[·]?)).bind fun entry =>
      entry.2.integer?).getD 0
  let mut found : Array (ScriptValue × ScriptValue) := #[]
  for entry in first do
    match combine (entry.2.integer?.getD 0) (← count second entry.1) with
    | none => return none
    | some number => if 0 < number then found := found.push (entry.1, .integer number)
  for entry in second do
    if (← findEntry entry.1 first).isNone then
      match combine 0 (entry.2.integer?.getD 0) with
      | none => return none
      | some number => if 0 < number then found := found.push (entry.1, .integer number)
  return some found.toList

/-- Whether a set, or a view that is like one, cannot be changed. -/
def isFrozen (value : ScriptValue) : ScriptRun Bool := do
  match value with
  | .object place =>
      match ← objectAt place with
      | .set _ isFrozen => return isFrozen
      | _ => return false
  | _ => return false

/-- An instance of a kind of the library with a content and attributes. -/
def newInstance (kind content : ScriptValue) (fields : Fields ScriptValue) :
    ScriptRun ScriptValue := do
  keepValue (.instance { kind, names := ← newFields fields, content })

/-- An operator between values of the library, if it has one. -/
def plainOperation? (mark : String) (first second : ScriptValue) :
    ScriptRun (Option ScriptValue) := do
  let left ← contentOf first
  let right ← contentOf second
  if left.isUnknown || right.isUnknown then return some .unknown
  if let some found ← numberOperation? mark left right then return some found
  if mark == "%" then
    match left with
    | .text template => return some (.text (← fillTemplate template second))
    | .bytes _ => return some .unknown
    | _ => return none
  if (← isOf first "collections.Counter") && (← isOf second "collections.Counter") then
    match ← entries? left, ← entries? right with
    | some counts, some others =>
        match ← countOperation? mark counts others with
        | some entries =>
            return some (← newInstance (.kind "collections.Counter") (← newMapping entries) [])
        | none => return none
    | _, _ => return none
  if mark == "*" then return ← product? left right
  if mark == "+" then
    if (← isOf first "collections.deque") && (← isOf second "collections.deque") then
      match ← list? left, ← list? right with
      | some items, some others =>
          let limit := (← attribute? first "maxlen").getD .nothing
          return some (← newInstance (.kind "collections.deque") (← newList (items ++ others))
            [("maxlen", limit)])
      | _, _ => return none
    return ← concatenation? left right second
  match ← setItems? left, ← setItems? right with
  | some items, some others =>
      match ← setOperation mark items others with
      | some result => return some (← newSet result (← isFrozen left))
      | none => return none
  | _, _ =>
      if mark == "|" then
        match ← entries? left, ← entries? right with
        | some entries, some others =>
            let place ← keep (.mapping entries)
            putEntries place others.toList
            match ← instance? first with
            | some found =>
                let kept ← entriesAt found.names
                return some (← keepValue (.instance { found with
                  content := .object place, names := ← keep (.mapping kept) }))
            | none => return some (.object place)
        | _, _ =>
            let isType (value : ScriptValue) : ScriptRun Bool := do
              return value == .nothing || (← isKind value)
            if (← isKind left) && (← isType right) then return some .unknown
            if left == .nothing && (← isKind right) then return some .unknown
            return none
      else return none

/-- What an operator gives, if it has a meaning for two values. -/
def operate? (mark : String) (first second : ScriptValue) : ScriptRun (Option ScriptValue) := do
  if first.isUnknown || second.isUnknown then return some .unknown
  let firstKind ← kindOf first
  let secondKind ← kindOf second
  let exchanged := operatorMethod "r" mark
  let exchangedLeads ←
    if firstKind != secondKind && (← isBelow secondKind firstKind) then
      pure ((← madeMember? secondKind exchanged) != (← madeMember? firstKind exchanged))
    else pure false
  if exchangedLeads then
    if let some found ← operateByClass? exchanged second first then return some found
  if let some found ← operateByClass? (operatorMethod "" mark) first second then return some found
  if firstKind != secondKind && !exchangedLeads then
    if let some found ← operateByClass? exchanged second first then return some found
  plainOperation? mark first second

def markName (mark : String) : Text :=
  if mark == "**" then "** or pow()" else Text.ofString mark

/-- An operator between two values. -/
def operate (mark : String) (first second : ScriptValue) : ScriptRun ScriptValue := do
  match ← operate? mark first second with
  | some found => return found
  | none => refuseKinds (markName mark) first second

/-- The pairs that a mapping is made from. -/
def pairsOf (items : List ScriptValue) (position : Nat) :
    ScriptRun (List (ScriptValue × ScriptValue)) := do
  match items with
  | [] => return []
  | item :: rest =>
      let parts ← tryCatch (itemsOf item) fun stop => do
        if ← isFaultOf stop "TypeError" then
          refuseType (("cannot convert dictionary update sequence element #" : Text) ++
            Text.ofNat position ++ " to a sequence")
        else throw stop
      match parts with
      | [key, value] => return (key, value) :: (← pairsOf rest (position + 1))
      | parts =>
          refuseValue (("dictionary update sequence element #" : Text) ++ Text.ofNat position ++
            " has length " ++ Text.ofNat parts.length ++ "; 2 is required")
termination_by items.length

/-- The entries that a value gives to a mapping. -/
def entriesFrom (value : ScriptValue) : ScriptRun (List (ScriptValue × ScriptValue)) := do
  let content ← contentOf value
  match ← entries? content with
  | some entries => return entries.toList
  | none =>
      match ← attribute? value "keys" with
      | some keys =>
          (← itemsOf (← call keys [])).mapM fun key => do return (key, ← itemAt value key)
      | none => pairsOf (← itemsOf value) 0

/-- The longest that a queue with a limit can be, from its end. -/
def limited (owner : ScriptValue) (items : List ScriptValue) : ScriptRun (List ScriptValue) := do
  match ← attribute? owner "maxlen" with
  | some (.integer limit) => return items.drop (items.length - limit.toNat)
  | _ => return items

/-- Changes a value in its place, if an operator can do so. -/
def updateInPlace? (mark : String) (first second : ScriptValue) :
    ScriptRun (Option ScriptValue) := do
  match ← contentOf first with
  | .object place =>
      match ← objectAt place with
      | .list items =>
          match mark with
          | "+" =>
              let more ← itemsOf second
              let items := items.toList ++ more
              let items ← if ← isOf first "collections.deque" then limited first items
                else pure items
              setObject place (.list items.toArray)
              return some first
          | "*" =>
              match ← index? second with
              | some count =>
                  setObject place (.list (← repetition items.toList count).toArray)
                  return some first
              | none => return none
          | _ => return none
      | .set items false =>
          match ← setItems? (← contentOf second) with
          | some others =>
              match ← setOperation mark items.toList others with
              | some result =>
                  setObject place (.set (ScriptHash.ordered result.toArray) false)
                  return some first
              | none => return none
          | none => return none
      | .mapping _ =>
          if mark == "|" && !(← isOf first "collections.Counter") then
            putEntries place (← entriesFrom second)
            return some first
          return none
      | .buffer content =>
          if mark == "+" then
            match ← bytes? second with
            | some more =>
                setObject place (.buffer (content ++ more))
                return some first
            | none => return none
          return none
      | _ => return none
  | _ => return none

/-- An update of a value. -/
def update (mark : String) (first second : ScriptValue) : ScriptRun ScriptValue := do
  if first.isUnknown || second.isUnknown then return .unknown
  if let some found ← operateByClass? (operatorMethod "i" mark) first second then return found
  if (← method? first (operatorMethod "" mark)).isNone then
    if let some found ← updateInPlace? mark first second then return found
  match ← operate? mark first second with
  | some found => return found
  | none => refuseKinds (Text.ofString mark ++ "=") first second

/-- What a sign in front of a value makes of it. -/
def signed (mark : UnaryMark) (value : ScriptValue) : ScriptRun ScriptValue := do
  if value.isUnknown then return .unknown
  let byMethod (name : Text) (plain : ScriptValue → Option ScriptValue) (sign : Text) :
      ScriptRun ScriptValue := do
    match ← method? value name with
    | some method => call method []
    | none =>
        match plain (← contentOf value) with
        | some found => return found
        | none =>
            refuseType (("bad operand type for unary " : Text) ++ sign ++ ": " ++
              Quoted.ofText (← kindName value))
  match mark with
  | .negate => return .bool !(← isTrue value)
  | .plus => byMethod "__pos__" (fun value => value.quantity?.map quantityValue) "+"
  | .minus =>
      byMethod "__neg__" (fun value => value.quantity?.map fun number =>
        match number with
        | .whole number => .integer (-number)
        | .real number => .float (-number)) "-"
  | .invert =>
      byMethod "__invert__" (fun value => value.integer?.map fun number =>
        .integer (-number - 1)) "~"
where
  quantityValue : Quantity → ScriptValue
    | .whole number => .integer number
    | .real number => .float number

/-- Whether a mark between two values holds, or what their classes make of it. -/
def compareBy (mark : Text) (first second : ScriptValue) : ScriptRun ScriptValue := do
  match OrderMark.ofSign? mark with
  | some mark => compareValues mark first second
  | none =>
      if mark = ("is" : Text) then return .bool (first.same second)
      else if mark = ("is not" : Text) then return .bool !(first.same second)
      else if mark = ("in" : Text) then return .bool (← holdsItem second first)
      else return .bool !(← holdsItem second first)

end ScriptRun

end EventForge
