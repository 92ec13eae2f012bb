import EventForge.Script.Library.Closure

/-!
# What scripts enter and leave

A value that can be entered has a method for entering and one for leaving.  A function that hands
out one value can stand for both: it is entered up to that value, and left behind it.
-/

namespace EventForge

namespace ScriptRun

/-- The fault that a value stands for where it is thrown into a stream. -/
def faultFrom (given : List ScriptValue) : ScriptRun ScriptValue := do
  match given with
  | first :: rest =>
      if ← isKind first then
        match rest with
        | value :: _ => if ← isFault value then return value else call first [value]
        | [] => call first []
      else if ← isFault first then return first
      else
        refuseType (("exceptions must be classes or instances deriving from BaseException, not " :
          Text) ++ (← kindName first))
  | [] => refuseType "throw expected at least 1 argument, got 0"

/-- Goes on with a stream that is a function: what it hands out, or the end of the stream. -/
def sendInto (place : ObjectPlace) (given : ScriptValue) (fault : Option ScriptValue) :
    ScriptRun ScriptValue := do
  match ← advanceFunction place given fault with
  | .handed value | .waits value => return value
  | .ended value => endOfStream value

/-- Ends a stream that is a function. -/
def closeStream (place : ObjectPlace) : ScriptRun Unit := do
  match ← objectAt place with
  | .stream (.ofFunction progress flavour name) =>
      match progress with
      | .stopped _ false | .finished =>
          setObject place (.stream (.ofFunction .finished flavour name))
      | _ =>
          let fault ← newFault (.kind "GeneratorExit") [] []
          let result ← tryCatch (do return some (← advanceFunction place .nothing (some fault)))
            fun stop => do
              if (← isFaultOf stop "GeneratorExit") || (← isFaultOf stop "StopIteration") then
                return none
              else throw stop
          match result with
          | some (.handed _) | some (.waits _) =>
              refuse "RuntimeError" (flavourName flavour ++ " ignored GeneratorExit")
          | _ => return ()
  | _ => return ()

/-- The methods of streams that are functions. -/
def streamMethod (name : String) (owner : ScriptValue) (arguments : ScriptArguments) :
    ScriptRun ScriptValue := do
  match owner with
  | .object place =>
      match name, arguments.given with
      | "send", [value] => sendInto place value none
      | "throw", given => sendInto place .nothing (some (← faultFrom given))
      | "close", _ =>
          closeStream place
          return .nothing
      | "__next__", _ => sendInto place .nothing none
      | "__iter__", _ => return owner
      | _, _ => return .unknown
  | _ => return .unknown

/-- The stream inside a value that is entered by means of it. -/
def streamWithin (closure : NativeClosure) : ScriptRun ScriptValue :=
  return closure.values.headD .nothing

/-- Leaves a stream that was entered, with the fault that it was left by. -/
def leaveStream (stream : ScriptValue) (fault : ScriptValue) : ScriptRun ScriptValue := do
  let .object place := stream | return .bool false
  if fault == .nothing then
    match ← next? stream with
    | none => return .bool false
    | some _ => refuse "RuntimeError" "generator didn't stop"
  else
    let thrown : ScriptRun (Except ScriptValue Advance) := do
      return .ok (← advanceFunction place .nothing (some fault))
    let result ← tryCatch thrown fun stop => do
      match stop with
      | .raised raised =>
          if raised.same fault then return .error (.bool false)
          let cause ← attribute? raised "__cause__"
          if (← isOf raised "RuntimeError") && (cause.any fun cause => cause.same fault) then
            return .error (.bool false)
          throw stop
      | stop => throw stop
    match result with
    | .ok (.ended _) => return .bool true
    | .ok _ => refuse "RuntimeError" "generator didn't stop after throw()"
    | .error outcome => return outcome

/-- Enters a value of the library. -/
def enterClosure (closure : NativeClosure) : ScriptRun ScriptValue := do
  match closure.name with
  | "generator" =>
      match ← next? (← streamWithin closure) with
      | some value => return value
      | none => refuse "RuntimeError" "generator didn't yield"
  | "closing" | "nullcontext" => return closure.values.headD .nothing
  | _ => return .nothing

/-- Leaves a value of the library: `given` holds the kind of a fault, the fault, and its trace. -/
def leaveClosure (closure : NativeClosure) (given : List ScriptValue) : ScriptRun ScriptValue := do
  let fault := given.getD 1 .nothing
  match closure.name with
  | "generator" => leaveStream (← streamWithin closure) fault
  | "suppress" =>
      if fault == .nothing then return .bool false
      let kinds ← orderOf (← kindOf fault)
      return .bool (closure.values.any kinds.contains)
  | "closing" =>
      let _ ← call (← attributeOf (closure.values.headD .nothing) "close") []
      return .nothing
  | _ => return .nothing

/-- The functions of the module for entering and leaving. -/
def contextTool (name : String) (arguments : ScriptArguments) : ScriptRun ScriptValue := do
  match name, arguments.given with
  | "contextmanager", [function] => do
      let made ← newClosure "contextlib" "making" [function] true []
      copyNames function made
      return made
  | "suppress", kinds => newClosure "contextlib" "suppress" kinds false []
  | "closing", [value] => newClosure "contextlib" "closing" [value] false []
  | "nullcontext", values => newClosure "contextlib" "nullcontext" values false []
  | _, _ => return .unknown

/-- Calls a function that the module for entering and leaving has made. -/
def callContextTool (closure : NativeClosure) (arguments : ScriptArguments) :
    ScriptRun ScriptValue := do
  match closure.name, closure.values with
  | "making", function :: _ =>
      newClosure "contextlib" "generator" [← callWith function arguments] false []
  | _, _ => return .unknown

/-- A copy of a value; what is inside is copied too where `isDeep`.  `copied` holds the copies that
there are already.  The fuel bounds how deep the value is. -/
def copyIn (isDeep : Bool) : Nat → ScriptValue → ScriptRun ScriptValue
  | 0, _ => refuseDepth ""
  | fuel + 1, value => do
      let inner (value : ScriptValue) : ScriptRun ScriptValue :=
        if isDeep then copyIn isDeep fuel value else return value
      match value with
      | .tuple items => return .tuple (← items.mapM inner)
      | .object place =>
          match ← objectAt place with
          | .list items => newList (← items.toList.mapM inner)
          | .mapping entries =>
              newMapping (← entries.toList.mapM fun entry => do
                return (← inner entry.1, ← inner entry.2))
          | .set items isFrozen => keepValue (.set items isFrozen)
          | .buffer content => keepValue (.buffer content)
          | .random source spare => keepValue (.random source spare)
          | .instance found =>
              let name : Text := if isDeep then "__deepcopy__" else "__copy__"
              match ← method? value name with
              | some method =>
                  let memory ← newMapping []
                  call method (if isDeep then [memory] else [])
              | none =>
                  if (← orderOf found.kind).contains (.kind "enum.Enum") then return value
                  let entries ← (← entriesAt found.names).toList.mapM fun entry => do
                    return (entry.1, ← inner entry.2)
                  let content ←
                    match found.content with
                    | .object _ => copyIn isDeep fuel found.content
                    | content => pure content
                  keepValue (.instance { found with
                    names := ← keep (.mapping entries.toArray), content })
          | _ => return value
      | value => return value

end ScriptRun

end EventForge
