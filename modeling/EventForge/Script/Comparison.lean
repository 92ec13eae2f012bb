import EventForge.Script.Access
import EventForge.Script.Value

/-!
# Truth, equality and order

Classes decide how their instances are compared.  Numbers are compared exactly, sequences member by
member, and sets by what they contain.  A member is equal to itself whatever its class says.
-/

namespace EventForge

/-- How two values are compared. -/
inductive OrderMark
  | equal
  | unequal
  | less
  | lessEqual
  | greater
  | greaterEqual
deriving DecidableEq, Repr, Inhabited

namespace OrderMark

def all : List OrderMark := [equal, unequal, less, lessEqual, greater, greaterEqual]

def sign : OrderMark → String
  | equal => "=="
  | unequal => "!="
  | less => "<"
  | lessEqual => "<="
  | greater => ">"
  | greaterEqual => ">="

def ofSign? (written : Text) : Option OrderMark :=
  all.find? fun mark => Text.ofString mark.sign = written

/-- The method of a class for a comparison. -/
def method : OrderMark → Text
  | equal => "__eq__"
  | unequal => "__ne__"
  | less => "__lt__"
  | lessEqual => "__le__"
  | greater => "__gt__"
  | greaterEqual => "__ge__"

/-- The same comparison with the values exchanged. -/
def exchanged : OrderMark → OrderMark
  | less => greater
  | lessEqual => greaterEqual
  | greater => less
  | greaterEqual => lessEqual
  | other => other

/-- Whether a comparison holds for values in an order; without an order they only are unequal. -/
def holds (mark : OrderMark) : Option Ordering → Bool
  | none => mark = unequal
  | some .lt => mark = less || mark = lessEqual || mark = unequal
  | some .eq => mark = equal || mark = lessEqual || mark = greaterEqual
  | some .gt => mark = greater || mark = greaterEqual || mark = unequal

end OrderMark

namespace ScriptValue

/-- How many members a range has. -/
def rangeSize (start stop step : Int) : Nat :=
  if 0 < step then ((stop - start + step - 1).fdiv step).toNat
  else if step < 0 then ((start - stop - step - 1).fdiv (-step)).toNat
  else 0

def rangeItems (start stop step : Int) : List ScriptValue :=
  (List.range (rangeSize start stop step)).map fun (index : Nat) => .integer (start + index * step)

/-- Whether two values are one and the same. -/
def same : ScriptValue → ScriptValue → Bool
  | .float first, .float second => first.toBits == second.toBits
  | first, second => first == second

/-- Whether two values are equal, as far as no class has to be asked. -/
def plainlyEqual? (first second : ScriptValue) : Option Bool :=
  match first.quantity?, second.quantity? with
  | some first, some second => some (first.compare? second == some .eq)
  | _, _ =>
      match first, second with
      | .text first, .text second => some (first == second)
      | .object first, .object second => if first = second then some true else none
      | .object _, _ | _, .object _ | .tuple _, _ | _, .tuple _ | .bound _ _, _ | .range _ _ _, _ =>
          none
      | first, second => some (first == second)

end ScriptValue

namespace ScriptRun

/-- How deep collections can be inside each other where they are compared or shown. -/
def maxNesting : Nat := 250

def refuseDepth {Value : Type} (place : Text) : ScriptRun Value :=
  refuse "RecursionError" ("maximum recursion depth exceeded" ++ place)

/-- How many members a collection of the library has. -/
def plainSize? (value : ScriptValue) : ScriptRun (Option Nat) := do
  match value with
  | .text content => return some content.length
  | .bytes content => return some content.length
  | .tuple items => return some items.length
  | .range start stop step => return some (ScriptValue.rangeSize start stop step)
  | .object place =>
      match ← objectAt place with
      | .list items => return some items.size
      | .mapping entries => return some entries.size
      | .set items _ => return some items.size
      | .buffer content => return some content.length
      | .view mapping _ => return some (← entriesAt mapping).size
      | .row _ cells => return some cells.length
      | .madeKind _ => return (← membersOf value).map List.length
      | _ => return none
  | _ => return none

/-- The integer that a value stands for, with the help of its class. -/
def index? (value : ScriptValue) : ScriptRun (Option Int) := do
  match (← contentOf value).integer? with
  | some number => return some number
  | none =>
      match ← method? value "__index__" with
      | none => return none
      | some method =>
          let result ← call method []
          match result.integer? with
          | some number => return some number
          | none =>
              refuseType (("__index__ returned non-int (type " : Text) ++ (← kindName result) ++
                ")")

/-- The integer that a value must stand for. -/
def indexOf (value : ScriptValue) : ScriptRun Int := do
  match ← index? value with
  | some number => return number
  | none =>
      refuseType (Quoted.ofText (← kindName value) ++
        " object cannot be interpreted as an integer")

/-- How many members a collection has. -/
def size? (value : ScriptValue) : ScriptRun (Option Nat) := do
  match ← method? value "__len__" with
  | some method =>
      let size ← indexOf (← call method [])
      if size < 0 then refuseValue "__len__() should return >= 0"
      return some size.toNat
  | none => plainSize? (← contentOf value)

/-- Whether a condition on a value holds. -/
def isTrue (value : ScriptValue) : ScriptRun Bool := do
  match value with
  | .nothing => return false
  | .bool truth => return truth
  | .integer number => return number != 0
  | .float number => return number != 0
  | .text content => return !content.isEmpty
  | value =>
      match ← method? value "__bool__" with
      | some method =>
          match ← call method [] with
          | .bool truth => return truth
          | .unknown => return true
          | other =>
              refuseType (("__bool__ should return bool, returned " : Text) ++ (← kindName other))
      | none =>
          match ← contentOf value with
          | .bool truth => return truth
          | .integer number => return number != 0
          | .float number => return number != 0
          | _ =>
              if (← membersOf value).isSome then return true
              return (← size? value) != some 0

/-- Asks the class of a value to compare it. -/
def compareByClass? (mark : OrderMark) (first second : ScriptValue) :
    ScriptRun (Option ScriptValue) := do
  match ← method? first mark.method with
  | some method =>
      let result ← call method [second]
      return if result == .unsupported then none else some result
  | none =>
      if mark = .unequal then
        match ← method? first OrderMark.equal.method with
        | some method =>
            let result ← call method [second]
            if result == .unsupported || result.isUnknown then return none
            return some (.bool !(← isTrue result))
        | none => return none
      else return none

/-- Whether each of some values is among others. -/
def allAmong (alike : ScriptValue → ScriptValue → ScriptRun Bool) (others : List ScriptValue) :
    List ScriptValue → ScriptRun Bool
  | [] => return true
  | first :: rest => do
      if ← others.anyM (alike first) then allAmong alike others rest else return false

/-- The first members in which two sequences differ, or how their lengths compare. -/
def firstDifference (alike : ScriptValue → ScriptValue → ScriptRun Bool) :
    List ScriptValue → List ScriptValue →
    ScriptRun (Except Ordering (ScriptValue × ScriptValue))
  | [], [] => return .error .eq
  | [], _ :: _ => return .error .lt
  | _ :: _, [] => return .error .gt
  | first :: firsts, second :: seconds => do
      if ← alike first second then firstDifference alike firsts seconds
      else return .ok (first, second)

/-- The order of two texts or rows of bytes. -/
def orderOfPoints {Point : Type} [BEq Point] [LT Point] [DecidableLT Point] :
    List Point → List Point → Ordering
  | [], [] => .eq
  | [], _ :: _ => .lt
  | _ :: _, [] => .gt
  | first :: firsts, second :: seconds =>
      if first == second then orderOfPoints firsts seconds
      else if first < second then .lt
      else .gt

/-- The members of a set, or of a view that is like one. -/
def setItems? (value : ScriptValue) : ScriptRun (Option (List ScriptValue)) := do
  match value with
  | .object place =>
      match ← objectAt place with
      | .set items _ => return some items.toList
      | .view mapping .key =>
          return some ((← entriesAt mapping).toList.map fun entry => entry.1)
      | .view mapping .both =>
          return some ((← entriesAt mapping).toList.map fun entry => .tuple [entry.1, entry.2])
      | _ => return none
  | _ => return none

/-- The bytes that a value holds. -/
def bytes? (value : ScriptValue) : ScriptRun (Option Bytes) := do
  match value with
  | .bytes content => return some content
  | .object place =>
      match ← objectAt place with
      | .buffer content => return some content
      | _ => return none
  | _ => return none

/-- The members of a list. -/
def list? (value : ScriptValue) : ScriptRun (Option (List ScriptValue)) := do
  match value with
  | .object place =>
      match ← objectAt place with
      | .list items => return some items.toList
      | _ => return none
  | _ => return none

/-- The entries of a mapping. -/
def entries? (value : ScriptValue) :
    ScriptRun (Option (Array (ScriptValue × ScriptValue))) := do
  match value with
  | .object place =>
      match ← objectAt place with
      | .mapping entries => return some entries
      | _ => return none
  | _ => return none

/-- Whether two mappings have the same entries. -/
def sameEntries (alike : ScriptValue → ScriptValue → ScriptRun Bool)
    (others : List (ScriptValue × ScriptValue)) :
    List (ScriptValue × ScriptValue) → ScriptRun Bool
  | [] => return true
  | first :: rest => do
      if ← others.anyM fun other => do
          if ← alike first.1 other.1 then alike first.2 other.2 else return false then
        sameEntries alike others rest
      else return false

/-- How a comparison of two sets comes out. -/
def compareSets (alike : ScriptValue → ScriptValue → ScriptRun Bool) (mark : OrderMark)
    (first second : List ScriptValue) : ScriptRun Bool := do
  let within := allAmong alike second first
  let around := allAmong alike first second
  match mark with
  | .equal => return first.length = second.length && (← within)
  | .unequal => return !(first.length = second.length && (← within))
  | .lessEqual => within
  | .less => return first.length < second.length && (← within)
  | .greaterEqual => around
  | .greater => return second.length < first.length && (← around)

/-- Compares values of the library, if they can be compared. -/
def comparePlain? (alike : ScriptValue → ScriptValue → ScriptRun Bool)
    (compare : OrderMark → ScriptValue → ScriptValue → ScriptRun ScriptValue) (mark : OrderMark)
    (first second : ScriptValue) : ScriptRun (Option ScriptValue) := do
  let sequences (firsts seconds : List ScriptValue) : ScriptRun (Option ScriptValue) := do
    match ← firstDifference alike firsts seconds with
    | .error order => return some (.bool (mark.holds (some order)))
    | .ok (first, second) =>
        match mark with
        | .equal => return some (.bool false)
        | .unequal => return some (.bool true)
        | mark => return some (← compare mark first second)
  match first.quantity?, second.quantity? with
  | some left, some right => return some (.bool (mark.holds (left.compare? right)))
  | _, _ =>
      match first, second with
      | .text left, .text right =>
          return some (.bool (mark.holds (some (orderOfPoints left right))))
      | .tuple left, .tuple right => sequences left right
      | .range start stop step, .range start' stop' step' =>
          let isSame := ScriptValue.rangeItems start stop step ==
            ScriptValue.rangeItems start' stop' step'
          match mark with
          | .equal => return some (.bool isSame)
          | .unequal => return some (.bool !isSame)
          | _ => return none
      | .bound function owner, .bound function' owner' =>
          let isSame := function.same function' && owner.same owner'
          match mark with
          | .equal => return some (.bool isSame)
          | .unequal => return some (.bool !isSame)
          | _ => return none
      | first, second =>
          match ← bytes? first, ← bytes? second with
          | some left, some right =>
              return some (.bool (mark.holds (some (orderOfPoints left right))))
          | _, _ =>
              match ← list? first, ← list? second with
              | some left, some right => sequences left right
              | _, _ =>
                  match ← entries? first, ← entries? second with
                  | some left, some right =>
                      let isSame := left.size = right.size &&
                        (← sameEntries alike right.toList left.toList)
                      match mark with
                      | .equal => return some (.bool isSame)
                      | .unequal => return some (.bool !isSame)
                      | _ => return none
                  | _, _ =>
                      match ← setItems? first, ← setItems? second with
                      | some left, some right =>
                          return some (.bool (← compareSets alike mark left right))
                      | _, _ => return none

/-- Compares two values.  The fuel bounds how deep they are. -/
def compareIn : Nat → OrderMark → ScriptValue → ScriptValue → ScriptRun ScriptValue
  | 0, _, _, _ => refuseDepth " in comparison"
  | fuel + 1, mark, first, second => do
      if first.isUnknown || second.isUnknown then return .unknown
      let firstKind ← kindOf first
      let secondKind ← kindOf second
      let exchangedLeads ←
        if firstKind != secondKind then isBelow secondKind firstKind else pure false
      let early ←
        if exchangedLeads then compareByClass? mark.exchanged second first else pure none
      if let some found := early then return found
      if let some found ← compareByClass? mark first second then return found
      if !exchangedLeads then
        if let some found ← compareByClass? mark.exchanged second first then return found
      let alike (first second : ScriptValue) : ScriptRun Bool := do
        match first.plainlyEqual? second with
        | some found => return found || first.same second
        | none =>
            if first.same second then return true
            isTrue (← compareIn fuel .equal first second)
      match ← comparePlain? alike (compareIn fuel) mark (← contentOf first) (← contentOf second) with
      | some found => return found
      | none =>
          match mark with
          | .equal => return .bool (first.same second)
          | .unequal => return .bool !(first.same second)
          | mark =>
              refuseType (Quoted.ofText (Text.ofString mark.sign) ++
                " not supported between instances of " ++
                Quoted.ofText (← nameOfKind firstKind) ++ " and " ++
                Quoted.ofText (← nameOfKind secondKind))

def compareValues (mark : OrderMark) (first second : ScriptValue) : ScriptRun ScriptValue :=
  compareIn maxNesting mark first second

/-- Whether two members of collections are equal; each is equal to itself. -/
def alike (first second : ScriptValue) : ScriptRun Bool := do
  match first.plainlyEqual? second with
  | some found => return found || first.same second
  | none =>
      if first.same second then return true
      isTrue (← compareValues .equal first second)

def isLess (first second : ScriptValue) : ScriptRun Bool := do
  isTrue (← compareValues .less first second)

/-- Refuses a value that can be no key, because it can change.  The fuel bounds how deep it is. -/
def requireKeyIn : Nat → ScriptValue → ScriptRun Unit
  | 0, _ => return ()
  | fuel + 1, value => do
      match value with
      | .tuple items => items.forM (requireKeyIn fuel)
      | .slice _ _ _ => refuseKey value
      | .object place =>
          match ← objectAt place with
          | .list _ | .mapping _ | .set _ false | .buffer _ => refuseKey value
          | .instance found =>
              match ← madeMember? found.kind "__hash__" with
              | some .nothing => refuseKey value
              | some _ =>
                  let some method ← method? value "__hash__" | return ()
                  let _ ← call method []
              | none =>
                  match found.content with
                  | .object content =>
                      match ← objectAt content with
                      | .list _ | .mapping _ | .set _ false | .buffer _ => refuseKey value
                      | _ => return ()
                  | _ => return ()
          | _ => return ()
      | _ => return ()
where
  refuseKey (value : ScriptValue) : ScriptRun Unit := do
    refuseType (("unhashable type: " : Text) ++ Quoted.ofText (← kindName value))

def requireKey (value : ScriptValue) : ScriptRun Unit := requireKeyIn maxNesting value

/-- The place of the first of some values that is equal to a value. -/
def findPlace (value : ScriptValue) (position : Nat) : List ScriptValue → ScriptRun (Option Nat)
  | [] => return none
  | first :: others => do
      if ← alike first value then return some position
      findPlace value (position + 1) others

/-- The place of the entry under a key. -/
def findEntry (key : ScriptValue) (entries : Array (ScriptValue × ScriptValue)) :
    ScriptRun (Option Nat) := do
  match key with
  | .text content =>
      match entries.findIdx? fun entry => isText content entry.1 with
      | some place => return some place
      | none =>
          let isAsked := entries.any fun entry =>
            match entry.1 with
            | .object _ => true
            | _ => false
          if isAsked then findPlace key 0 (entries.toList.map fun entry => entry.1)
          else return none
  | key => findPlace key 0 (entries.toList.map fun entry => entry.1)

/-- The value under a key in the mapping at a place. -/
def valueUnder? (place : ObjectPlace) (key : ScriptValue) : ScriptRun (Option ScriptValue) := do
  requireKey key
  let entries ← entriesAt place
  return ((← findEntry key entries).bind (entries[·]?)).map fun entry => entry.2

/-- Puts a value under a key into the mapping at a place; a key that is there stays. -/
def putUnder (place : ObjectPlace) (key value : ScriptValue) : ScriptRun Unit := do
  requireKey key
  let found ← findEntry key (← entriesAt place)
  changeObject place fun object =>
    match object with
    | .mapping entries =>
        match found with
        | some index =>
            .mapping (entries.modify index fun entry => (entry.1, value))
        | none => .mapping (entries.push (key, value))
    | other => other

/-- Takes the value under a key out of the mapping at a place. -/
def takeUnder? (place : ObjectPlace) (key : ScriptValue) : ScriptRun (Option ScriptValue) := do
  requireKey key
  let entries ← entriesAt place
  match ← findEntry key entries with
  | some index =>
      setObject place (.mapping (entries.toList.eraseIdx index).toArray)
      return (entries[index]?).map fun entry => entry.2
  | none => return none

/-- Values without repetition, in the order of their first appearance. -/
def distinctFrom (found : Array ScriptValue) : List ScriptValue → ScriptRun (Array ScriptValue)
  | [] => return found
  | first :: others => do
      requireKey first
      if ← found.anyM (alike · first) then distinctFrom found others
      else distinctFrom (found.push first) others

def distinct (items : List ScriptValue) : ScriptRun (Array ScriptValue) := distinctFrom #[] items

def newSet (items : List ScriptValue) (isFrozen : Bool) : ScriptRun ScriptValue := do
  keepValue (.set (ScriptHash.ordered (← distinct items)) isFrozen)

end ScriptRun

end EventForge
