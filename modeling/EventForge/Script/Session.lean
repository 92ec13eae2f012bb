import EventForge.Script.Code.OfScript
import EventForge.Script.Step
import EventForge.Script.Token

/-!
# Running scripts

Frames run one in another, and a session is what the scripts that run in it share.
-/

namespace EventForge

/-!
## Running frames

A frame runs until it is finished, stops or is left by a fault.  A fault leaves the parts of a frame
from the inside to the outside until one of them handles it, and then the frames that wait for it.
Functions of the library run frames inside of each other.
-/

namespace ScriptRun

def setHandled (handled : List ScriptValue) : ScriptRun Unit :=
  modify fun state => { state with handled }

/-- Leaves parts of a frame until one of them goes on. -/
def unwind (frame : ScriptFrame) (unwinding : Unwinding) :
    List FrameControl → ScriptRun ScriptStep
  | [] =>
      match unwinding with
      | .fault value => raise value
      | .giveBack value => return .finished value
      | .breakLoop | .continueLoop => return .finished .nothing
  | control :: controls => do
      let goOn (code : List Instruction) (stack : List ScriptValue)
          (controls : List FrameControl) : ScriptRun ScriptStep :=
        return .next { frame with code, stack, controls }
      match control, unwinding with
      | .loop _ _ outer, .breakLoop => goOn [] outer controls
      | .loop again inner _, .continueLoop => goOn again inner (control :: controls)
      | .guarded handlers _ stack, .fault value =>
          let before := (← get).handled
          setHandled (value :: before)
          goOn handlers stack (.handling before :: controls)
      | .final code stack, .fault value =>
          let before := (← get).handled
          setHandled (value :: before)
          goOn code stack (.handling before :: .resumed (some unwinding) :: controls)
      | .final code stack, _ => goOn code stack (.resumed (some unwinding) :: controls)
      | .managed isAsync exit stack, .fault value =>
          let before := (← get).handled
          setHandled (value :: before)
          goOn (.leave true :: (if isAsync then Instruction.waiting else []) ++
            [.branch [] [.raiseAgain]]) (value :: exit :: stack) (.handling before :: controls)
      | .managed isAsync exit stack, _ =>
          goOn (.leave false :: (if isAsync then Instruction.waiting else []) ++ [.pop])
            (exit :: stack) (.resumed (some unwinding) :: controls)
      | .handling before, _ =>
          setHandled before
          unwind frame unwinding controls
      | _, _ => unwind frame unwinding controls

/-- Goes on behind a part of a frame that has come to its end. -/
def endPart (frame : ScriptFrame) : ScriptRun ScriptStep := do
  match frame.controls with
  | [] => return .finished .nothing
  | control :: controls =>
      let frame := { frame with controls }
      match control with
      | .rest code => return .next { frame with code }
      | .loop again inner _ =>
          return .next { frame with code := again, stack := inner, controls := control :: controls }
      | .guarded _ other _ => return .next { frame with code := other }
      | .final code _ =>
          return .next { frame with code, controls := .resumed none :: controls }
      | .resumed none => return .next frame
      | .resumed (some unwinding) => unwind frame unwinding controls
      | .handling before =>
          setHandled before
          return .next frame
      | .managed isAsync exit _ =>
          return .next { frame.push exit with
            code := .leave false :: (if isAsync then Instruction.waiting else []) ++ [.pop] }

/-- Links a fault to the one during whose handling it is raised. -/
def linkFault (fault : ScriptValue) : ScriptRun Unit := do
  match (← get).handled, fault with
  | before :: _, .object place =>
      if before != fault then
        changeObject place fun object =>
          match object with
          | .instance found =>
              if found.links.context == .nothing then
                .instance { found with links := { found.links with context := before } }
              else object
          | other => other
  | _, _ => return ()

/-- One step of a frame, into which a fault may be raised. -/
def step (frame : ScriptFrame) (fault : Option ScriptValue) : ScriptRun ScriptStep := do
  let plain : ScriptRun ScriptStep := do
    match fault, frame.code with
    | some fault, _ => raise fault
    | none, [] => endPart frame
    | none, instruction :: code =>
        match ← carryOut { frame with code } instruction with
        | .leave frame unwinding => unwind frame unwinding frame.controls
        | found => return found
  let handled := (← get).handled
  tryCatch plain fun stop => do
    match stop with
    | .raised fault =>
        setHandled handled
        linkFault fault
        unwind frame (.fault fault) frame.controls
    | stop => throw stop

/-- How many functions of scripts can run inside each other. -/
def maxDepth : Nat := 970

/-- How many functions of the library can run functions of scripts inside each other. -/
def maxInner : Nat := 180

/-- How many steps a script can take. -/
def maxSteps : Nat := 1000000000

/-- What a frame goes on with behind a function that has come to its end. -/
def deliver (ending : FrameEnd) (value : ScriptValue) (frame : ScriptFrame) :
    ScriptFrame × ScriptRun (Option ScriptValue) :=
  match ending with
  | .value => (frame.push value, return none)
  | .discarded => (frame, return none)
  | .instance made =>
      if value == .nothing || value.isUnknown then (frame.push made, return none)
      else
        (frame, do
          return some (← newFault (.kind "TypeError")
            [.text (("__init__() should return None, not " : Text) ++
              Quoted.ofText (← kindName value))] []))

/-- The value that a frame that no other one waits for comes to. -/
def lastValue (ending : FrameEnd) (value : ScriptValue) : ScriptRun ScriptValue := do
  match ending with
  | .value | .discarded => return value
  | .instance made =>
      if value == .nothing || value.isUnknown then return made
      refuseType (("__init__() should return None, not " : Text) ++
        Quoted.ofText (← kindName value))

def setDepth (change : Nat → Nat) (state : ScriptState) : ScriptState :=
  { state with depth := change state.depth }

/-- Runs a frame, and the frames that wait for it, until all are finished or the last of them stops.
The fuel bounds the number of steps. -/
def runFrames (runner : ScriptRunner) : Nat → ScriptFrame → List ScriptFrame →
    Option ScriptValue → ScriptState → Except ScriptStop FrameResult × ScriptState
  | 0, _, _, _, state => (.error .exhausted, state)
  | fuel + 1, frame, callers, fault, state =>
      match (step frame fault).run runner |>.run state with
      | (.ok (.next frame), state) => runFrames runner fuel frame callers none state
      | (.ok (.leave frame _), state) => runFrames runner fuel frame callers none state
      | (.ok (.enter callee caller), state) =>
          if maxDepth ≤ state.depth then
            match (newFault (.kind "RecursionError") [.text "maximum recursion depth exceeded"]
                []).run runner |>.run state with
            | (.ok fault, state) => runFrames runner fuel caller callers (some fault) state
            | (.error stop, state) => (.error stop, state)
          else runFrames runner fuel callee (caller :: callers) none (setDepth (· + 1) state)
      | (.ok (.finished value), state) =>
          match callers with
          | [] =>
              match (lastValue frame.ending value).run runner |>.run state with
              | (.ok value, state) => (.ok (.finished value), state)
              | (.error stop, state) => (.error stop, state)
          | caller :: callers =>
              let (next, refusal) := deliver frame.ending value caller
              match refusal.run runner |>.run (setDepth (· - 1) state) with
              | (.ok fault, state) => runFrames runner fuel next callers fault state
              | (.error stop, state) => (.error stop, state)
      | (.ok (.stopped value waits frame), state) => (.ok (.stopped value waits frame), state)
      | (.error (.raised fault), state) =>
          match callers with
          | [] => (.error (.raised fault), state)
          | caller :: callers =>
              runFrames runner fuel caller callers (some fault) (setDepth (· - 1) state)
      | (.error stop, state) => (.error stop, state)

/-- Runs a frame inside of a function of the library, into which a fault may be raised.  When it is
finished, or left by a fault, nothing is handled that was not handled before. -/
def runInner (runner : ScriptRunner) (frame : ScriptFrame) (fault : Option ScriptValue) :
    ScriptAct FrameResult := fun state =>
  let (result, after) := runFrames runner maxSteps frame [] fault (setDepth (· + 1) state)
  (result, setDepth (· - 1) after)

/-- Calls a value and runs it to its end. -/
def callInner (runner : ScriptRunner) (callee : ScriptValue) (arguments : ScriptArguments) :
    ScriptAct ScriptValue := do
  match ← (prepare maxNesting callee arguments).run runner with
  | .value value => return value
  | .frame frame =>
      if maxDepth ≤ (← get).depth then
        (refuseDepth "" : ScriptRun ScriptValue).run runner
      else
        match ← runInner runner frame none with
        | .finished value => return value
        | .stopped value _ _ => return value

/-- The frame behind what it delegates to. -/
def withoutDelegate (frame : ScriptFrame) : ScriptFrame :=
  match frame.code with
  | .delegate _ :: code => { frame with code }
  | _ => frame

/-- Goes on with a frame that has stopped, or throws a fault into it. -/
def resumeFrame (runner : ScriptRunner) (frame : ScriptFrame) (fault : Option ScriptValue) :
    ScriptAct FrameResult := do
  if maxDepth ≤ (← get).depth then
    return ← (refuseDepth "" : ScriptRun FrameResult).run runner
  match fault with
  | none => runInner runner frame none
  | some fault =>
      let thrown : ScriptAct (Except ScriptValue ScriptStep) :=
        tryCatch (do return .ok (← (throwInto frame fault).run runner)) fun stop => do
          match stop with
          | .raised fault => return .error fault
          | stop => throw stop
      match ← thrown with
      | .ok (.next frame) => runInner runner frame none
      | .ok (.stopped value waits frame) => return .stopped value waits frame
      | .ok _ => return .finished .nothing
      | .error fault => runInner runner (withoutDelegate frame) (some fault)

/-- Goes on with a frame that has stopped.  The faults that it was handling are handled again, and no
longer once it stops. -/
def resumeInner (runner : ScriptRunner) (frame : ScriptFrame) (fault : Option ScriptValue) :
    ScriptAct FrameResult := do
  let outer := (← get).handled
  modify fun state => { state with handled := frame.handled ++ outer }
  let act : ScriptAct (Except ScriptStop FrameResult) := do
    return .ok (← resumeFrame runner frame fault)
  let result ← tryCatch act fun stop => return .error stop
  let inner := (← get).handled
  modify fun state => { state with handled := outer }
  match result with
  | .ok (.stopped value waits frame) =>
      return .stopped value waits { frame with
        handled := inner.take (inner.length - outer.length) }
  | .ok result => return result
  | .error stop => throw stop

/-- How functions of the library run functions of scripts: some of them inside each other. -/
def runnerOf : Nat → ScriptRunner
  | 0 => {
      call := fun _ _ => throw .exhausted
      resume := fun _ _ => throw .exhausted }
  | 1 =>
      let runner := runnerOf 0
      { call := fun _ _ => (refuseDepth "" : ScriptRun ScriptValue).run runner
        resume := fun _ _ => (refuseDepth "" : ScriptRun FrameResult).run runner }
  | inner + 1 => {
      call := callInner (runnerOf inner)
      resume := resumeInner (runnerOf inner) }

/-- How functions run that no other one runs. -/
def outermost : ScriptRunner := runnerOf maxInner

end ScriptRun

/-!
## Sessions of scripts

A session is what scripts work on, with the modules that are loaded in it.  A fault that leaves a
script is settled: it is kept as the names of its kinds, its message and what comes with it.
-/

/-- A fault that a script raised, as it is seen from outside. -/
structure RaisedFault where
  /-- The names of its kind and of all kinds that it belongs to. -/
  kinds : List Text
  message : Text
  /-- The code of an error of event modules, with the names that it is about. -/
  about : Option (Text × Fields Document) := none
  /-- What a script that asks to end the program gives as the status. -/
  status : Option Document := none
deriving Inhabited

namespace RaisedFault

def isOf (fault : RaisedFault) (kind : Text) : Bool := fault.kinds.contains kind

/-- The kinds of faults that nothing stops: what asks to end the program, or to cancel its work. -/
def finalKinds : List Text := ["SystemExit", "KeyboardInterrupt", "CancelledError"]

/-- How far it gets: what asks for an end does not stop, and what is no plain failure is handled by
nothing that handles failures. -/
def reach (fault : RaisedFault) : FaultReach :=
  if finalKinds.any fault.isOf then .final
  else if fault.isOf "Exception" then .handled
  else .escaping

def fault (fault : RaisedFault) : Fault :=
  { kind := .raised (fault.kinds.headD []), message := fault.message
    code := fault.about.map fun about => about.1
    details := (fault.about.map fun about => about.2).getD []
    reach := fault.reach, status := fault.status }

end RaisedFault

namespace ScriptRun

/-- A value as it is seen from outside.  The fuel bounds how deep it is. -/
def documentOf : Nat → ScriptValue → ScriptRun Document
  | 0, _ => return .null
  | fuel + 1, value => do
      match ← contentOf value with
      | .nothing => return .null
      | .bool truth => return .bool truth
      | .integer number => return .integer number
      | .float number => return .float number
      | .text content => return .text content
      | .bytes content => return .bytes content
      | .tuple items => return .tuple (← items.mapM (documentOf fuel))
      | content =>
          match ← list? content, ← entries? content with
          | some items, _ => return .list (← items.mapM (documentOf fuel))
          | none, some entries =>
              return .mapping (← entries.toList.mapM fun entry => do
                return (← documentOf fuel entry.1, ← documentOf fuel entry.2))
          | none, none => return .text (← displayText content)

/-- The code and the details of an error of event modules. -/
def aboutError (fault : ScriptValue) : ScriptRun (Option (Text × Fields Document)) := do
  match ← attribute? fault "code", ← attribute? fault "details" with
  | some code, some details =>
      let code ← shownText code
      let details ← (← entries? details).getD #[] |>.toList.mapM fun entry => do
        return (← shownText entry.1, ← documentOf maxNesting entry.2)
      return some (code, details)
  | _, _ => return none

/-- Settles a fault. -/
def settled (fault : ScriptValue) : ScriptRun RaisedFault := do
  let kinds ← (← orderOf (← kindOf fault)).mapM nameOfKind
  let message ← tryCatch (shownText fault) fun _ => return []
  let about ← if kinds.contains ErrorClass.rootName then aboutError fault else pure none
  let status ←
    if kinds.contains "SystemExit" then
      some <$> documentOf maxNesting ((← attribute? fault "code").getD .nothing)
    else pure none
  return { kinds, message, about, status }

/-- The names that a module has when its script begins. -/
def openingNames (name path : Text) (code : ScriptCode) : Fields ScriptValue := [
  ("__name__", .text name), ("__doc__", (code.description.map .text).getD .nothing),
  ("__package__", .text []), ("__loader__", .unknown), ("__spec__", .unknown),
  ("__file__", .text path), ("__cached__", .unknown), ("__builtins__", .unknown)]

/-- Runs a whole script as the module of a name. -/
def runModule (name path : Text) (code : ScriptCode) : ScriptRun ObjectPlace := do
  let names ← newFields (openingNames name path code)
  let place ← keep (.module name names)
  modify fun state => { state with modules := state.modules ++ [(name, place)] }
  let scope ← keep (.scope [] none)
  let frame : ScriptFrame := { code := code.body, scope, globals := names }
  let _ ← (fun runner => runInner runner frame none : ScriptRun FrameResult)
  return place

end ScriptRun

namespace ScriptState

/-- A session in which no script has run. -/
def opening (workspace : Workspace) (clock : Clock) (environment : List (Text × Text)) :
    ScriptState :=
  { workspace, clock, environment }

/-- The fault for a script that takes too many steps. -/
def endless : RaisedFault := { kinds := ["Exception", "BaseException", "object"], message := [] }

/-- Runs a part of a script: what it comes to, or the fault that leaves it. -/
def perform {Value : Type} (act : ScriptRun Value) (state : ScriptState) :
    Except RaisedFault Value × ScriptState :=
  match (act.run ScriptRun.outermost).run state with
  | (.ok value, state) => (.ok value, state)
  | (.error .exhausted, state) => (.error endless, state)
  | (.error (.raised fault), state) =>
      let state := { state with handled := [], depth := 0 }
      match ((ScriptRun.settled fault).run ScriptRun.outermost).run state with
      | (.ok found, state) => (.error found, state)
      | (.error _, state) => (.error endless, state)

end ScriptState

end EventForge
