import EventForge.Script.Calling
import EventForge.Script.Matching

/-!
# Steps of frames

A frame carries out one instruction after the other.  A step leads to the same frame, to the frame of a
function that is called, or out of the part of the script that the frame is in.
-/

namespace EventForge

/-- Where a step leads. -/
inductive ScriptStep
  | next (frame : ScriptFrame)
  /-- A function runs, and the frame goes on behind it. -/
  | enter (callee caller : ScriptFrame)
  /-- A part of the script is left before its end. -/
  | leave (frame : ScriptFrame) (unwinding : Unwinding)
  | finished (value : ScriptValue)
  | stopped (value : ScriptValue) (waits : Bool) (frame : ScriptFrame)
deriving Inhabited

namespace ScriptFrame

def push (frame : ScriptFrame) (value : ScriptValue) : ScriptFrame :=
  { frame with stack := value :: frame.stack }

def top (frame : ScriptFrame) : ScriptValue := frame.stack.headD .nothing

/-- The frame without some values on top. -/
def without (frame : ScriptFrame) (count : Nat) : ScriptFrame :=
  { frame with stack := frame.stack.drop count }

/-- The values on top in the order in which they were put there. -/
def last (frame : ScriptFrame) (count : Nat) : List ScriptValue :=
  (frame.stack.take count).reverse

/-- Goes on with a part, and behind it with the rest. -/
def within (frame : ScriptFrame) (part : List Instruction) : ScriptFrame :=
  if frame.code.isEmpty then { frame with code := part }
  else { frame with code := part, controls := .rest frame.code :: frame.controls }

/-- Goes on with a part under a control, and behind it with the rest. -/
def under (frame : ScriptFrame) (control : FrameControl) (part : List Instruction) :
    ScriptFrame :=
  let outer := frame.within []
  { outer with code := part, controls := control :: outer.controls }

/-- Leaves the loop around. -/
def endLoop (frame : ScriptFrame) (other : List Instruction) : ScriptFrame :=
  match frame.controls with
  | .loop _ _ outer :: controls => { frame with code := other, stack := outer, controls }
  | _ => { frame with code := other }

end ScriptFrame

namespace ScriptRun

/-- The members of a value that is unpacked. -/
def unpackedItems (value : ScriptValue) : ScriptRun (List ScriptValue) := do
  let stream ← tryCatch (iterate value) fun stop => do
    if (← isFaultOf stop "TypeError") && (← method? value "__iter__").isNone then
      refuseType (("cannot unpack non-iterable " : Text) ++ (← kindName value) ++ " object")
    else throw stop
  return (← drain stream #[] maxMembers).toList

/-- Members for a number of targets. -/
def unpacked (value : ScriptValue) (size : Nat) : ScriptRun (List ScriptValue) := do
  if value.isUnknown then return List.replicate size .unknown
  let items ← unpackedItems value
  if items.length < size then
    refuseValue (("not enough values to unpack (expected " : Text) ++ Text.ofNat size ++
      ", got " ++ Text.ofNat items.length ++ ")")
  if size < items.length then
    refuseValue (("too many values to unpack (expected " : Text) ++ Text.ofNat size ++ ")")
  return items

/-- Members for targets around one that takes all others. -/
def unpackedRest (value : ScriptValue) (before behind : Nat) : ScriptRun (List ScriptValue) := do
  let items ← if value.isUnknown then pure (List.replicate (before + behind) .unknown)
    else unpackedItems value
  if items.length < before + behind then
    refuseValue (("not enough values to unpack (expected at least " : Text) ++
      Text.ofNat (before + behind) ++ ", got " ++ Text.ofNat items.length ++ ")")
  let middle := items.length - before - behind
  return items.take before ++ [← newList ((items.drop before).take middle)] ++
    items.drop (before + middle)

/-- Adds a member to a collection. -/
def addTo (collection value : ScriptValue) : ScriptRun Unit := do
  let .object place := collection | return ()
  match ← objectAt place with
  | .list _ =>
      changeObject place fun object =>
        match object with
        | .list items => .list (items.push value)
        | other => other
  | .set items isFrozen =>
      setObject place (.set (ScriptHash.ordered (← distinctFrom items [value])) isFrozen)
  | _ => return ()

/-- Adds all members of a value to a list. -/
def addAllTo (collection value : ScriptValue) : ScriptRun Unit := do
  let items ← tryCatch (itemsOf value) fun stop => do
    if (← isFaultOf stop "TypeError") && (← method? value "__iter__").isNone then
      refuseType (("Value after * must be an iterable, not " : Text) ++ (← kindName value))
    else throw stop
  items.forM (addTo collection)

/-- Adds all entries of a mapping to another one. -/
def addEntriesTo (collection value : ScriptValue) : ScriptRun Unit := do
  let .object place := collection | return ()
  if value.isUnknown then return ()
  match ← entries? (← contentOf value) with
  | some entries => putEntries place entries.toList
  | none =>
      match ← attribute? value "keys" with
      | none =>
          refuseType (Quoted.ofText (← kindName value) ++ " object is not a mapping")
      | some keys =>
          (← itemsOf (← call keys [])).forM fun key => do putUnder place key (← itemAt value key)

/-- The defaults of a function among values in the order of its parameters. -/
def defaultsOf : List CodeParameter → List ScriptValue → Fields ScriptValue
  | [], _ => []
  | parameter :: parameters, values =>
      if parameter.hasDefault then
        match values with
        | value :: values => (parameter.name, value) :: defaultsOf parameters values
        | [] => []
      else defaultsOf parameters values

/-- Makes a function from its defaults and notes on the stack. -/
def makeFunction (frame : ScriptFrame) (code : ScriptCode) : ScriptRun ScriptFrame := do
  let count := (code.parameters.filter fun parameter => parameter.hasDefault).length
  let notes := frame.top
  let defaults := defaultsOf code.parameters ((frame.without 1).last count)
  let fields : Fields ScriptValue :=
    if notes == .nothing then [] else [("__annotations__", notes)]
  let function ← keepValue (.function {
    code, globals := frame.globals, outer := frame.scope, defaults, names := ← newFields fields })
  return (frame.without (count + 1)).push function

/-- Begins a class with its arguments on the stack. -/
def beginClass (frame : ScriptFrame) (code : ScriptCode) (shapes : List ArgumentShape) :
    ScriptRun ScriptStep := do
  let given := frame.last shapes.length
  let arguments ← argumentsOf (.native "" "__build_class__") {} (shapes.zip given)
  let module := (← field? frame.globals "__name__").getD (.text "builtins")
  let names ← newFields [("__module__", module), ("__qualname__", .text code.path)]
  let cell ← keep (.scope [] (some frame.scope))
  let keywords ← newMapping (arguments.named.map fun field => (ScriptValue.text field.1, field.2))
  let rest := frame.without shapes.length
  let caller := { rest with
    stack := .object cell :: .object names :: keywords :: .tuple arguments.given :: rest.stack }
  return .enter {
    code := code.body, scope := cell, names := some names, globals := frame.globals
    ending := .discarded } caller

/-- Makes a class from its parts, by a class of classes if a script has made one for it. -/
def classBy (asked : ScriptValue) (parts : ClassParts) : ScriptRun ScriptValue := do
  let metaclass ← if ← isKind asked then metaclassOf asked parts.bases else pure asked
  match metaclass with
  | .object _ =>
      callWith metaclass {
        given := [.text parts.name, .tuple parts.bases, .object parts.names]
        named := parts.keywords }
  | _ => makeClass { parts with metaclass }

/-- Makes a class from what its statements have left on the stack. -/
def endClass (frame : ScriptFrame) (name : Text) : ScriptRun ScriptFrame := do
  match frame.stack with
  | .object cell :: .object names :: keywords :: .tuple bases :: stack =>
      let frame := { frame with stack }
      let text (value : Option ScriptValue) (standard : Text) : Text :=
        match value with
        | some (.text content) => content
        | _ => standard
      let keywords ← namedIn keywords
      let further : Fields ScriptValue :=
        keywords.filter fun field => field.1 ≠ ("metaclass" : Text)
      let parts : ClassParts := {
        name, path := text (← field? names "__qualname__") name
        module := text (← field? names "__module__") "builtins"
        bases, keywords := further, names }
      if bases.contains (.kind "typing.TypedDict") then return frame.push (.kind "dict")
      let kind ←
        if bases.contains (.kind "typing.NamedTuple") then namedTupleOfClass parts
        else classBy ((keywords.get? "metaclass").getD (.kind "type")) parts
      changeObject cell fun object =>
        match object with
        | .scope fields outer => .scope (fields.insert "__class__" kind) outer
        | other => other
      return frame.push kind
  | _ => return frame

/-- A special method of a value that is entered. -/
def entering? (value : ScriptValue) (name : Text) : ScriptRun (Option ScriptValue) := do
  match ← method? value name with
  | some method => return some method
  | none => if value.isUnknown then return some .unknown else attribute? value name

/-- Enters a value: how to leave it stays on the stack, below what entering gives. -/
def enterValue (frame : ScriptFrame) (isAsync : Bool) : ScriptRun ScriptFrame := do
  let value := frame.top
  let refusal : Text := Quoted.ofText (← kindName value) ++ " object does not support the " ++
    (if isAsync then ("asynchronous " : Text) else []) ++ "context manager protocol"
  let leaving : Text := if isAsync then "__aexit__" else "__exit__"
  match ← entering? value (if isAsync then "__aenter__" else "__enter__") with
  | none => refuseType refusal
  | some enter =>
      match ← entering? value leaving with
      | none => refuseType (refusal ++ " (missed " ++ leaving ++ " method)")
      | some exit => return ((frame.without 1).push exit).push (← call enter [])

/-- Leaves what was entered. -/
def leaveValue (frame : ScriptFrame) (hasFault : Bool) : ScriptRun ScriptFrame := do
  if hasFault then
    let fault := frame.top
    let exit := (frame.without 1).top
    return (frame.without 2).push (← call exit [← kindOf fault, fault, .nothing])
  else return (frame.without 1).push (← call frame.top [.nothing, .nothing, .nothing])

/-- What has to be waited for in place of a value. -/
def awaited (value : ScriptValue) : ScriptRun ScriptValue := do
  let refuse : ScriptRun ScriptValue := do
    refuseType (("object " : Text) ++ (← kindName value) ++ " can't be used in 'await' expression")
  match value with
  | .unknown => newStream (.given .unknown)
  | value =>
      if ← isWaiting value then return value
      match ← method? value "__await__" with
      | some method => call method []
      | none => refuse

/-- The value that comes with the end of a stream. -/
def endValue (stop : ScriptStop) : ScriptRun ScriptValue := do
  match stop with
  | .raised fault => return (← attribute? fault "value").getD .nothing
  | .exhausted => throw stop

/-- Asks the stream below a value for its next member, and gives the value to it. -/
def delegate (frame : ScriptFrame) (isWaiting : Bool) : ScriptRun ScriptStep := do
  let sent := frame.top
  let stream := (frame.without 1).top
  let rest := frame.without 2
  let again := { frame.without 1 with code := .delegate isWaiting :: frame.code }
  let ended (value : ScriptValue) : ScriptStep := .next (rest.push value)
  let .object place := stream | return ended .unknown
  match ← objectAt place with
  | .stream (.ofFunction _ _ _) =>
      match ← advanceFunction place sent none with
      | .handed value => return .stopped value isWaiting again
      | .waits value => return .stopped value true again
      | .ended value => return ended value
  | .stream (.sleeping seconds result begun) =>
      if begun then return ended result
      setObject place (.stream (.sleeping seconds result true))
      return .stopped (.float seconds) true again
  | .stream (.given value) => return ended value
  | .stream (.later function given) => return ended (← call function given)
  | .instance _ =>
      let found : Except ScriptValue ScriptValue ←
        tryCatch (do
            let name : Text := if sent == .nothing then "__next__" else "send"
            let value ← call (← attributeOf stream name) (if sent == .nothing then [] else [sent])
            return (.ok value : Except ScriptValue ScriptValue))
          fun stop => do
            if ← isFaultOf stop "StopIteration" then return .error (← endValue stop)
            else throw stop
      match found with
      | .ok value => return .stopped value isWaiting again
      | .error value => return ended value
  | _ =>
      match ← next? stream with
      | some value => return .stopped value isWaiting again
      | none => return ended .nothing

/-- Throws a fault into a frame that has stopped: what it delegates to takes the fault first. -/
def throwInto (frame : ScriptFrame) (fault : ScriptValue) : ScriptRun ScriptStep := do
  match frame.code, frame.top with
  | .delegate isWaiting :: code, .object place =>
      match ← objectAt place with
      | .stream (.ofFunction _ _ _) =>
          match ← advanceFunction place .nothing (some fault) with
          | .handed value => return .stopped value isWaiting frame
          | .waits value => return .stopped value true frame
          | .ended value => return .next { (frame.without 1).push value with code }
      | _ => raise fault
  | _, _ => raise fault

/-- The next member of the stream on top, or the end of the loop. -/
def advanceLoop (frame : ScriptFrame) (isAsync : Bool) (other : List Instruction) :
    ScriptRun ScriptStep := do
  if !isAsync then
    match ← next? frame.top with
    | some value => return .next (frame.push value)
    | none => return .next (frame.endLoop other)
  let again := { frame with code := .pop :: .advance isAsync other :: frame.code }
  let .object place := frame.top | return .next (frame.endLoop other)
  match ← objectAt place with
  | .stream (.ofFunction _ .waitingStream _) =>
      match ← advanceFunction place .nothing none with
      | .handed value => return .next (frame.push value)
      | .waits value => return .stopped value true again
      | .ended _ => return .next (frame.endLoop other)
  | _ =>
      let found ← tryCatch (do
          let step ← call (← attributeOf frame.top "__anext__") []
          return some (← finishWaiting (← awaited step) maxMembers))
        fun stop => do
          if ← isFaultOf stop "StopAsyncIteration" then return none else throw stop
      match found with
      | some value => return .next (frame.push value)
      | none => return .next (frame.endLoop other)

/-- The stream of a value for a loop. -/
def streamFor (isAsync : Bool) (value : ScriptValue) : ScriptRun ScriptValue := do
  if !isAsync then return ← iterate value
  let refuse : ScriptRun ScriptValue := do
    refuseType (("'async for' requires an object with __aiter__ method, got " : Text) ++
      (← kindName value))
  match value with
  | .unknown => return value
  | .object place =>
      match ← objectAt place with
      | .stream (.ofFunction _ .waitingStream _) => return value
      | _ =>
          match ← method? value "__aiter__" with
          | some method => call method []
          | none => refuse
  | _ => refuse

/-- Whether a fault is of one of some kinds. -/
def isAmong (fault kinds : ScriptValue) : ScriptRun Bool := do
  let order ← orderOf (← kindOf fault)
  let wanted : List ScriptValue := match kinds with
    | .tuple kinds => kinds
    | kind => [kind]
  for kind in wanted do
    if kind.isUnknown then return true
    let isFaultKind ← do
      if ← isKind kind then isBelow kind (.kind "BaseException") else pure false
    if !isFaultKind then
      refuseType "catching classes that do not inherit from BaseException is not allowed"
  return wanted.any order.contains

/-- The fault that is being handled. -/
def handledFault : ScriptRun (Option ScriptValue) := return (← get).handled.head?

/-- A fault that a value stands for where it is raised. -/
def raisedFault (value : ScriptValue) (refusal : Text) : ScriptRun ScriptValue := do
  if value.isUnknown then return ← newFault (.kind "Exception") [] []
  if ← isKind value then
    if ← isBelow value (.kind "BaseException") then
      let made ← call value []
      if ← isFault made then return made
      refuseType (("calling " : Text) ++ (← displayText value) ++
        " should have returned an instance of BaseException, not " ++
        (← displayText (← kindOf made)))
    refuseType refusal
  if ← isFault value then return value
  refuseType refusal

/-- Raises a value, which another one may have caused. -/
def raiseValue (value : ScriptValue) (cause : Option ScriptValue) : ScriptRun ScriptStep := do
  let fault ← raisedFault value "exceptions must derive from BaseException"
  match cause, fault with
  | some cause, .object place =>
      let cause ← if cause == .nothing then pure cause
        else raisedFault cause "exception causes must derive from BaseException"
      changeObject place fun object =>
        match object with
        | .instance found =>
            .instance { found with links := { found.links with cause, suppressed := true } }
        | other => other
  | _, _ => pure ()
  raise fault

/-- A value as it stands inside a text. -/
def shownInText (value : ScriptValue) (conversion : TextConversion) (format : Text) :
    ScriptRun ScriptValue := do
  let value ←
    match conversion with
    | .plain => pure value
    | .display => do pure (ScriptValue.text (← displayText value))
    | .ascii => do pure (ScriptValue.text (asciiForm (← displayText value)))
  return .text (← formattedBy value format)

/-- Binds all names of a module that it hands on. -/
def importAll (frame : ScriptFrame) (module : ScriptValue) : ScriptRun Unit := do
  let .object place := module | return ()
  (← publicNames place).forM fun field => writeName frame (.global field.1) field.2

/-- Carries out an instruction; the code of the frame is what follows it. -/
def carryOut (frame : ScriptFrame) (instruction : Instruction) : ScriptRun ScriptStep := do
  let next (frame : ScriptFrame) : ScriptRun ScriptStep := return .next frame
  /- Puts a value in the place of some others. -/
  let put (count : Nat) (value : ScriptValue) : ScriptRun ScriptStep :=
    return .next ((frame.without count).push value)
  let first := frame.top
  let second := (frame.without 1).top
  let third := (frame.without 2).top
  match instruction with
  | .constant value => put 0 value
  | .read use => put 0 (← readName frame use)
  | .write use =>
      writeName frame use first
      next (frame.without 1)
  | .forget use =>
      forgetName frame use
      next frame
  | .attribute name => put 1 (← attributeOf first name)
  | .setAttribute name =>
      setAttribute first name second
      next (frame.without 2)
  | .forgetAttribute name =>
      removeAttribute first name
      next (frame.without 1)
  | .item => put 2 (← itemAt second first)
  | .setItem =>
      setItem second first third
      next (frame.without 3)
  | .forgetItem =>
      removeItem second first
      next (frame.without 2)
  | .slice => put 3 (.slice third second first)
  | .pop => next (frame.without 1)
  | .duplicate => put 0 first
  | .duplicatePair => next ((frame.push second).push first)
  | .sink depth =>
      let rest := frame.stack.drop 1
      next { frame with stack := rest.take depth ++ first :: rest.drop depth }
  | .unary mark => put 1 (← signed mark first)
  | .binary mark => put 2 (← operate mark.toString second first)
  | .update mark => put 2 (← update mark.toString second first)
  | .compare mark => put 2 (← compareBy mark second first)
  | .shortcut holds part =>
      if (← isTrue first) == holds then next ((frame.without 1).within part) else next frame
  | .chained mark part =>
      let found ← compareBy mark second first
      if ← isTrue found then next (((frame.without 2).push first).within part)
      else put 2 found
  | .branch yes no =>
      let truth ← isTrue first
      next ((frame.without 1).within (if truth then yes else no))
  | .tuple size => put size (.tuple (frame.last size))
  | .list size => put size (← newList (frame.last size))
  | .set size => put size (← newSet (frame.last size) false)
  | .addItem =>
      addTo second first
      next (frame.without 1)
  | .addItems =>
      addAllTo second first
      next (frame.without 1)
  | .tupleOfList => put 1 (.tuple (← itemsOf first))
  | .setOfList => put 1 (← newSet (← itemsOf first) false)
  | .mapping => put 0 (← newMapping [])
  | .addEntry =>
      match third with
      | .object place => putUnder place second first
      | _ => pure ()
      next (frame.without 2)
  | .addEntries =>
      addEntriesTo second first
      next (frame.without 1)
  | .call shapes =>
      let rest := frame.without shapes.length
      let arguments ← argumentsOf rest.top {} (shapes.zip (frame.last shapes.length))
      match ← prepareIn frame rest.top arguments with
      | .value value => next ((rest.without 1).push value)
      | .frame callee => return .enter callee (rest.without 1)
  | .function code => next (← makeFunction frame code)
  | .beginClass code shapes => beginClass frame code shapes
  | .endClass name => next (← endClass frame name)
  | .whileLoop body => next (frame.under (.loop body frame.stack frame.stack) body)
  | .forLoop isAsync body other =>
      let again := .advance isAsync other :: body
      next (frame.under (.loop again frame.stack (frame.stack.drop 1)) again)
  | .advance isAsync other => advanceLoop frame isAsync other
  | .leaveUnless other =>
      if ← isTrue first then next (frame.without 1) else next (frame.endLoop other)
  | .breakLoop => return .leave frame .breakLoop
  | .continueLoop => return .leave frame .continueLoop
  | .giveBack => return .leave frame (.giveBack first)
  | .attempt body handlers other =>
      next (frame.under (.guarded handlers other frame.stack) body)
  | .finally body final => next (frame.under (.final final frame.stack) body)
  | .matchesFault =>
      put 1 (.bool (← isAmong ((← handledFault).getD .unknown) first))
  | .handledFault => put 0 ((← handledFault).getD .nothing)
  | .beginGroup =>
      next ((frame.push (← newList [])).push ((← handledFault).getD .nothing))
  | .splitGroup =>
      let (found, rest) ← splitByKinds first second
      next (((frame.without 2).push rest).push found)
  | .noteRaised =>
      addTo ((frame.without 3).top) (.tuple [first, second])
      next (frame.without 1)
  | .endGroup =>
      let raised := ((← list? second).getD []).filterMap fun entry =>
        match entry with
        | .tuple [fault, handled] => some (fault, handled)
        | _ => none
      match ← faultLeft? ((← handledFault).getD .nothing) first raised with
      | some fault => raise fault
      | none => next (frame.without 2)
  | .raiseAgain =>
      match ← handledFault with
      | some fault => raise fault
      | none => refuse "RuntimeError" "No active exception to reraise"
  | .raising hasCause =>
      if hasCause then raiseValue second (some first) else raiseValue first none
  | .enter isAsync => next (← enterValue frame isAsync)
  | .within isAsync body =>
      let rest := frame.without 2
      next ((rest.under (.managed isAsync second rest.stack) body).push first)
  | .leave hasFault => next (← leaveValue frame hasFault)
  | .iterate isAsync => put 1 (← streamFor isAsync first)
  | .unpack size =>
      let items ← unpacked first size
      next { frame with stack := items ++ frame.stack.drop 1 }
  | .unpackRest before behind =>
      let items ← unpackedRest first before behind
      next { frame with stack := items ++ frame.stack.drop 1 }
  | .handOut => return .stopped first false (frame.without 1)
  | .delegate isWaiting => delegate frame isWaiting
  | .awaited => put 1 (← awaited first)
  | .importModule name isWhole =>
      let (outermost, whole) ← loadModule name
      put 0 (.object (if isWhole then whole else outermost))
  | .importFrom name =>
      match first with
      | .object place => put 1 (← importedName place name)
      | _ => put 1 .unknown
  | .importAll =>
      importAll frame first
      next (frame.without 1)
  | .relativeImport =>
      raiseWith "ImportError" [.text "attempted relative import with no known parent package"]
  | .shown conversion hasFormat =>
      if hasFormat then put 2 (← shownInText second conversion (← shownText first))
      else put 1 (← shownInText first conversion [])
  | .join size =>
      let pieces ← (frame.last size).mapM shownText
      put size (.text (pieces.flatMap id))
  | .collect kind depth =>
      let collection (count : Nat) : ScriptValue := frame.stack.getD (depth + count) .nothing
      match kind with
      | .mapping =>
          if let .object place := collection 2 then putUnder place second first
          next (frame.without 2)
      | _ =>
          addTo (collection 1) first
          next (frame.without 1)
  | .matching pattern => put 0 (.bool (← bindMatch frame first pattern))
  | .annotate name =>
      annotate frame name first
      next (frame.without 1)

end ScriptRun

end EventForge
