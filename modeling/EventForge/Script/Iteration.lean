import EventForge.Script.Display

/-!
# Streams

A stream gives values one after the other until it ends.  Every collection gives a stream of its
members.  A function that stops is a stream of what it hands out; what it gives back comes with the
end of the stream.
-/

namespace EventForge

namespace ScriptRun

/-- What a function that stops comes to when it goes on. -/
inductive Advance
  | handed (value : ScriptValue)
  | waits (value : ScriptValue)
  | ended (value : ScriptValue)
deriving Inhabited

/-- Whether a stop is a fault of a known kind. -/
def isFaultOf (stop : ScriptStop) (kind : String) : ScriptRun Bool := do
  match stop with
  | .raised fault => isOf fault kind
  | .exhausted => return false

/-- The end of a stream inside a function that is one itself is a fault of that function. -/
def insideStream (name : Text) (stop : ScriptStop) : ScriptRun Advance := do
  match stop with
  | .raised fault =>
      if ← isOf fault "StopIteration" then
        let outer ← newFault (.kind "RuntimeError") [.text (name ++ " raised StopIteration")] []
        match outer with
        | .object place =>
            changeObject place fun object =>
              match object with
              | .instance found =>
                  .instance { found with
                    links := { cause := fault, context := fault, suppressed := true } }
              | other => other
        | _ => pure ()
        raise outer
      throw stop
  | .exhausted => throw stop

/-- What kind of stream a function is. -/
def flavourName : FunctionFlavour → Text
  | .stream => "generator"
  | .waitingStream => "async generator"
  | _ => "coroutine"

/-- Goes on with a function that has stopped: with a value that it is given, or with a fault. -/
def advanceFunction (place : ObjectPlace) (given : ScriptValue) (fault : Option ScriptValue) :
    ScriptRun Advance := do
  match ← objectAt place with
  | .stream (.ofFunction progress flavour name) =>
      let note (progress : StreamProgress) : ScriptRun Unit :=
        setObject place (.stream (.ofFunction progress flavour name))
      match progress with
      | .running => refuseValue (flavourName flavour ++ " already executing")
      | .finished =>
          match fault, flavour with
          | some fault, _ => raise fault
          | none, .waiting =>
              refuse "RuntimeError" "cannot reuse already awaited coroutine"
          | none, _ => return .ended .nothing
      | .stopped frame begun =>
          if !begun && fault.isNone && given != .nothing then
            refuseType (("can't send non-None value to a just-started " : Text) ++
              flavourName flavour)
          note .running
          let frame := if begun && fault.isNone then { frame with stack := given :: frame.stack }
            else frame
          let act : ScriptRun Advance := do
            match ← resume frame fault with
            | .finished value =>
                note .finished
                return .ended value
            | .stopped value waits frame =>
                note (.stopped frame true)
                return if waits then .waits value else .handed value
          tryCatch act fun stop => do
            note .finished
            insideStream (flavourName flavour) stop
  | _ => return .ended .nothing

/-- The members of streams, if none of them has ended. -/
def allNext? (next : ScriptValue → ScriptRun (Option ScriptValue)) :
    List ScriptValue → ScriptRun (Option (List ScriptValue))
  | [] => return some []
  | source :: sources => do
      match ← next source with
      | none => return none
      | some value =>
          match ← allNext? next sources with
          | some values => return some (value :: values)
          | none => return none

/-- The next members of streams of which all must end together; `position` counts from one. -/
def strictNext? (next : ScriptValue → ScriptRun (Option ScriptValue)) (position : Nat) :
    List ScriptValue → ScriptRun (Option (List ScriptValue))
  | [] => return some []
  | source :: sources => do
      match ← next source with
      | some value =>
          match ← strictNext? next (position + 1) sources with
          | some values => return some (value :: values)
          | none => return none
      | none =>
          if 1 < position then
            refuseValue (("zip() argument " : Text) ++ Text.ofNat position ++
              " is shorter than argument" ++ (if position = 2 then (" 1" : Text) else
                ("s 1-" : Text) ++ Text.ofNat (position - 1)))
          match ← firstLeft next 2 sources with
          | some longer =>
              refuseValue (("zip() argument " : Text) ++ Text.ofNat longer ++
                " is longer than argument" ++ (if longer = 2 then (" 1" : Text) else
                  ("s 1-" : Text) ++ Text.ofNat (longer - 1)))
          | none => return none
where
  firstLeft (next : ScriptValue → ScriptRun (Option ScriptValue)) (position : Nat) :
      List ScriptValue → ScriptRun (Option Nat)
    | [] => return none
    | source :: sources => do
        match ← next source with
        | some _ => return some position
        | none => firstLeft next (position + 1) sources

/-- The next members of streams, with a value for those that have ended. -/
def longestNext (next : ScriptValue → ScriptRun (Option ScriptValue)) (standard : ScriptValue) :
    List (Option ScriptValue) → ScriptRun (List (ScriptValue × Option ScriptValue))
  | [] => return []
  | none :: sources => return (standard, none) :: (← longestNext next standard sources)
  | some source :: sources => do
      match ← next source with
      | some value => return (value, some source) :: (← longestNext next standard sources)
      | none => return (standard, none) :: (← longestNext next standard sources)

/-- The first member of a stream for which a function holds, or does not. -/
def nextChosen? (next : ScriptRun (Option ScriptValue)) (holds : Bool) (function : ScriptValue) :
    Nat → ScriptRun (Option ScriptValue)
  | 0 => throw .exhausted
  | fuel + 1 => do
      match ← next with
      | none => return none
      | some value =>
          let truth ← if function == .nothing then isTrue value else
            isTrue (← call function [value])
          if truth == holds then return some value
          nextChosen? next holds function fuel

/-- Passes over members of a stream. -/
def skipMembers (next : ScriptRun (Option ScriptValue)) : Nat → ScriptRun Bool
  | 0 => return true
  | count + 1 => do
      match ← next with
      | some _ => skipMembers next count
      | none => return false

/-- How many members of a stream are looked at. -/
def maxMembers : Nat := 10000000

/-- The row that a cursor gives for some cells. -/
def rowOf (cursor : ScriptValue) (found : ScriptCursor) (cells : List ScriptValue) :
    ScriptRun ScriptValue := do
  match ← objectAt found.connection with
  | .connection connection =>
      match connection.rowFactory with
      | .nothing => return .tuple cells
      | .kind "sqlite3.Row" => keepValue (.row (found.columns.getD []) cells)
      | factory => call factory [cursor, .tuple cells]
  | _ => return .tuple cells

/-- The stream of the members of a value of the library, if it has members. -/
def iterateContent? (value : ScriptValue) : ScriptRun (Option ScriptValue) := do
  let stream (stream : Stream) : ScriptRun (Option ScriptValue) := return some (← newStream stream)
  match value with
  | .unknown => stream (.values [])
  | .text content => stream (.values (content.map fun point => .text [point]))
  | .bytes content => stream (.values (content.map fun byte => .integer byte.toNat))
  | .tuple items => stream (.values items)
  | .range start stop step => stream (.counting start stop step)
  | .object place =>
      match ← objectAt place with
      | .list _ => stream (.ofList place 0)
      | .mapping entries => stream (.ofMapping place 0 entries.size .key)
      | .set items _ => stream (.ofSet place 0 items.size)
      | .buffer content => stream (.values (content.map fun byte => .integer byte.toNat))
      | .view mapping part => stream (.ofMapping mapping 0 (← entriesAt mapping).size part)
      | .row _ cells => stream (.values cells)
      | .cursor _ => return some value
      | .stream (.ofFunction _ flavour _) => return if flavour = .stream then some value else none
      | .stream (.sleeping _ _ _) | .stream (.given _) | .stream (.later _ _) => return none
      | .stream _ => return some value
      | .madeKind _ =>
          match ← membersOf value with
          | some members => stream (.values members)
          | none => return none
      | _ => return none
  | _ => return none

/-- Whether a value gives its members itself. -/
def isStream (value : ScriptValue) : ScriptRun Bool := do
  match value with
  | .unknown => return true
  | .object place =>
      match ← objectAt place with
      | .stream (.ofFunction _ flavour _) => return flavour = .stream
      | .stream _ | .cursor _ => return true
      | .instance _ => return (← method? value "__next__").isSome
      | _ => return false
  | _ => return false

/-- The stream of the members of a value. -/
def iterate (value : ScriptValue) : ScriptRun ScriptValue := do
  match ← method? value "__iter__" with
  | some method =>
      let stream ← call method []
      if !(← isStream stream) then
        refuseType (("iter() returned non-iterator of type " : Text) ++
          Quoted.ofText (← kindName stream))
      return stream
  | none =>
      match ← iterateContent? (← contentOf value) with
      | some stream => return stream
      | none =>
          match ← method? value "__getitem__" with
          | some _ => newStream (.indexed value 0)
          | none =>
              refuseType (Quoted.ofText (← kindName value) ++ " object is not iterable")

/-- The sum of two numbers. -/
def plainSum (first second : ScriptValue) : ScriptValue :=
  match first.quantity?, second.quantity? with
  | some left, some right =>
      match left.add? right with
      | some (.whole number) => .integer number
      | some (.real number) => .float number
      | none => .unknown
  | _, _ => .unknown

/-- The next member of a stream, if it has not ended.  The fuel bounds how many streams are inside
each other. -/
def nextIn : Nat → ScriptValue → ScriptRun (Option ScriptValue)
  | 0, _ => refuseDepth ""
  | fuel + 1, value => do
      match value with
      | .unknown => return none
      | .object place =>
          match ← objectAt place with
          | .stream stream => advance fuel place stream
          | .cursor cursor =>
              match cursor.rows with
              | [] => return none
              | cells :: rows =>
                  setObject place (.cursor { cursor with rows })
                  return some (← rowOf value cursor cells)
          | .instance _ =>
              match ← method? value "__next__" with
              | some method =>
                  tryCatch (do return some (← call method [])) fun stop => do
                    if ← isFaultOf stop "StopIteration" then return none else throw stop
              | none => refuseStream value
          | _ => refuseStream value
      | value => refuseStream value
where
  refuseStream (value : ScriptValue) : ScriptRun (Option ScriptValue) := do
    refuseType (Quoted.ofText (← kindName value) ++ " object is not an iterator")
  /-- The next member of a stream at a place. -/
  advance (fuel : Nat) (place : ObjectPlace) (stream : Stream) :
      ScriptRun (Option ScriptValue) := do
    let next (source : ScriptValue) : ScriptRun (Option ScriptValue) := nextIn fuel source
    let note (stream : Stream) : ScriptRun Unit := setObject place (.stream stream)
    let ended : ScriptRun (Option ScriptValue) := do
      note (.values [])
      return none
    match stream with
    | .values [] => return none
    | .values (value :: values) =>
        note (.values values)
        return some value
    | .ofList list index =>
        match ← objectAt list with
        | .list items =>
            match items[index]? with
            | some value =>
                note (.ofList list (index + 1))
                return some value
            | none => ended
        | _ => ended
    | .counting first stop step =>
        if (0 < step && stop ≤ first) || (step < 0 && first ≤ stop) || step = 0 then return none
        note (.counting (first + step) stop step)
        return some (.integer first)
    | .ofMapping mapping index size part =>
        let entries ← entriesAt mapping
        if entries.size ≠ size then
          refuse "RuntimeError" "dictionary changed size during iteration"
        match entries[index]? with
        | none => ended
        | some entry =>
            note (.ofMapping mapping (index + 1) size part)
            return some (match part with
              | .key => entry.1
              | .value => entry.2
              | .both => .tuple [entry.1, entry.2])
    | .ofSet set index size =>
        match ← objectAt set with
        | .set items _ =>
            if items.size ≠ size then
              refuse "RuntimeError" "Set changed size during iteration"
            match items[index]? with
            | none => ended
            | some value =>
                note (.ofSet set (index + 1) size)
                return some value
        | _ => ended
    | .ofFunction _ _ _ =>
        match ← advanceFunction place .nothing none with
        | .handed value | .waits value => return some value
        | .ended _ => return none
    | .indexed value index =>
        match ← method? value "__getitem__" with
        | none => ended
        | some method =>
            let found ← tryCatch (do return some (← call method [.integer index])) fun stop => do
              if (← isFaultOf stop "IndexError") || (← isFaultOf stop "StopIteration") then
                return none
              else throw stop
            match found with
            | some member =>
                note (.indexed value (index + 1))
                return some member
            | none => ended
    | .mapped function sources =>
        match ← allNext? next sources with
        | some values => return some (← call function values)
        | none => return none
    | .chosen holds function source => nextChosen? (next source) holds function maxMembers
    | .zipped [] _ => return none
    | .zipped sources strict =>
        let found ← if strict then strictNext? next 1 sources else allNext? next sources
        return found.map .tuple
    | .zippedLongest sources standard =>
        let found ← longestNext next standard sources
        if found.all fun entry => entry.2.isNone then ended
        else
          note (.zippedLongest (found.map fun entry => entry.2) standard)
          return some (.tuple (found.map fun entry => entry.1))
    | .numbered index source =>
        match ← next source with
        | some value =>
            note (.numbered (index + 1) source)
            return some (.tuple [.integer index, value])
        | none => return none
    | .calling function last =>
        let value ← call function []
        if ← alike value last then ended else return some value
    | .chained current source => nextOfChain place next current source maxMembers
    | .counted value step =>
        note (.counted (plainSum value step) step)
        return some value
    | .cycled source seen items =>
        match source with
        | some inner =>
            match ← next inner with
            | some value =>
                note (.cycled source (value :: seen) items)
                return some value
            | none => again place seen.reverse seen.reverse
        | none => again place seen items
    | .repeated value left =>
        match left with
        | none => return some value
        | some 0 => return none
        | some (left + 1) =>
            note (.repeated value (some left))
            return some value
    | .sliced source position wanted stop step =>
        if (stop.map fun stop => decide (stop ≤ wanted)).getD false then return none
        if !(← skipMembers (next source) (wanted - position)) then return ← ended
        match ← next source with
        | some value =>
            note (.sliced source (wanted + 1) (wanted + step) stop step)
            return some value
        | none => ended
    | .takenWhile function source finished =>
        if finished then return none
        match ← next source with
        | none => return none
        | some value =>
            if ← isTrue (← call function [value]) then return some value
            ended
    | .droppedWhile function source begun =>
        if begun then return ← next source
        note (.droppedWhile function source true)
        nextKept next function source maxMembers
    | .accumulated function source total begun =>
        match begun, total with
        | false, some total =>
            note (.accumulated function source (some total) true)
            return some total
        | _, total =>
            match ← next source with
            | none => return none
            | some value =>
                let result ←
                  match total with
                  | none => pure value
                  | some total => call function [total, value]
                note (.accumulated function source (some result) true)
                return some result
    | .starred function source =>
        match ← next source with
        | none => return none
        | some arguments =>
            match ← contentOf arguments with
            | .tuple items => return some (← call function items)
            | other =>
                match ← list? other with
                | some items => return some (← call function items)
                | none => refuseType "starmap arguments must be sequences"
    | .rows rows =>
        match rows with
        | [] => return none
        | row :: rows =>
            note (.rows rows)
            return some row
    | .sleeping _ _ _ | .given _ | .later _ _ => return none
  again (place : ObjectPlace) (left items : List ScriptValue) :
      ScriptRun (Option ScriptValue) := do
    match if left.isEmpty then items else left with
    | [] => return none
    | value :: left =>
        setObject place (.stream (.cycled none left items))
        return some value
  nextKept (next : ScriptValue → ScriptRun (Option ScriptValue)) (function source : ScriptValue) :
      Nat → ScriptRun (Option ScriptValue)
    | 0 => throw .exhausted
    | count + 1 => do
        match ← next source with
        | none => return none
        | some value =>
            if ← isTrue (← call function [value]) then nextKept next function source count
            else return some value
  nextOfChain (place : ObjectPlace) (next : ScriptValue → ScriptRun (Option ScriptValue))
      (current : Option ScriptValue) (source : ScriptValue) :
      Nat → ScriptRun (Option ScriptValue)
    | 0 => throw .exhausted
    | count + 1 => do
        let current ←
          match current with
          | some current => pure (some current)
          | none =>
              match ← next source with
              | some inner => pure (some (← iterate inner))
              | none => pure none
        match current with
        | none => return none
        | some inner =>
            setObject place (.stream (.chained (some inner) source))
            match ← next inner with
            | some value => return some value
            | none => nextOfChain place next none source count

/-- The next member of a stream, if it has not ended. -/
def next? (stream : ScriptValue) : ScriptRun (Option ScriptValue) := nextIn maxNesting stream

/-- All members that are left of a stream, behind others. -/
def drain (stream : ScriptValue) (found : Array ScriptValue) :
    Nat → ScriptRun (Array ScriptValue)
  | 0 => throw .exhausted
  | fuel + 1 => do
      match ← next? stream with
      | some value => drain stream (found.push value) fuel
      | none => return found

/-- The members of a value. -/
def itemsOf (value : ScriptValue) : ScriptRun (List ScriptValue) := do
  match value with
  | .tuple items => return items
  | .range start stop step => return ScriptValue.rangeItems start stop step
  | .unknown => return []
  | value =>
      match ← list? value with
      | some items => return items
      | none => return (← drain (← iterate value) #[] maxMembers).toList

end ScriptRun

end EventForge
