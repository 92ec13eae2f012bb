import EventForge.Random.Generator
import EventForge.Script.Code.Basic
import EventForge.Store.Workspace

/-!
# Objects of scripts

All that can change while a script runs is an object: collections, functions with their names,
classes and their instances, and streams.  A function that stops before its end is kept as the frame
in which it goes on.
-/

namespace EventForge

/-- How a part of a script is left before its end. -/
inductive Unwinding
  | fault (value : ScriptValue)
  | giveBack (value : ScriptValue)
  | breakLoop
  | continueLoop
deriving Inhabited

/-- What happens when a part of a script has come to its end, or is left. -/
inductive FrameControl
  /-- Goes on with other instructions. -/
  | rest (code : List Instruction)
  /-- Begins a loop again with one stack, or goes on behind it with another. -/
  | loop (again : List Instruction) (inner outer : List ScriptValue)
  /-- Handles faults. -/
  | guarded (handlers other : List Instruction) (stack : List ScriptValue)
  /-- Carries out instructions in every case. -/
  | final (code : List Instruction) (stack : List ScriptValue)
  /-- Leaves a part that was left before instructions that are carried out in every case. -/
  | resumed (unwinding : Option Unwinding)
  /-- Goes back to the faults that were handled before. -/
  | handling (before : List ScriptValue)
  /-- Leaves what was entered. -/
  | managed (isAsync : Bool) (exit : ScriptValue) (stack : List ScriptValue)
deriving Inhabited

/-- What becomes of the value that a function gives back. -/
inductive FrameEnd
  | value
  | discarded
  /-- Nothing must be given back, and an instance takes its place. -/
  | instance (value : ScriptValue)
deriving Inhabited

/-- A function while it runs. -/
structure ScriptFrame where
  code : List Instruction
  stack : List ScriptValue := []
  controls : List FrameControl := []
  /-- The object with the names of the function. -/
  scope : ObjectPlace
  /-- The mapping of the names of a class that is being made. -/
  names : Option ObjectPlace := none
  /-- The mapping of the names of the whole script. -/
  globals : ObjectPlace
  ending : FrameEnd := .value
  /-- The faults that the function was handling when it stopped. -/
  handled : List ScriptValue := []
deriving Inhabited

/-- How far a function that stops has come. -/
inductive StreamProgress
  | stopped (frame : ScriptFrame) (begun : Bool)
  | running
  | finished
deriving Inhabited

inductive EntryPart
  | key
  | value
  | both
deriving DecidableEq, Repr, Inhabited

/-- What gives values one after the other. -/
inductive Stream
  | values (items : List ScriptValue)
  | ofList (place : ObjectPlace) (index : Nat)
  | counting (next stop step : Int)
  /-- The entries of a mapping that must keep its size. -/
  | ofMapping (place : ObjectPlace) (index size : Nat) (part : EntryPart)
  | ofSet (place : ObjectPlace) (index size : Nat)
  | ofFunction (progress : StreamProgress) (flavour : FunctionFlavour) (name : Text)
  /-- The members that an object gives for the indices from zero on. -/
  | indexed (value : ScriptValue) (index : Nat)
  | mapped (function : ScriptValue) (sources : List ScriptValue)
  /-- The members for which a function holds, or does not. -/
  | chosen (holds : Bool) (function source : ScriptValue)
  | zipped (sources : List ScriptValue) (strict : Bool)
  /-- Members of sources together; a value stands for those of the sources that have ended. -/
  | zippedLongest (sources : List (Option ScriptValue)) (standard : ScriptValue)
  | numbered (index : Int) (source : ScriptValue)
  /-- What a function gives until it gives a certain value. -/
  | calling (function last : ScriptValue)
  /-- The members of the members of a source. -/
  | chained (current : Option ScriptValue) (source : ScriptValue)
  | counted (next step : ScriptValue)
  | cycled (source : Option ScriptValue) (seen items : List ScriptValue)
  | repeated (value : ScriptValue) (left : Option Nat)
  /-- The members of a source at some places, counted from zero. -/
  | sliced (source : ScriptValue) (position next : Nat) (stop : Option Nat) (step : Nat)
  | takenWhile (function source : ScriptValue) (ended : Bool)
  | droppedWhile (function source : ScriptValue) (begun : Bool)
  | accumulated (function source : ScriptValue) (total : Option ScriptValue) (begun : Bool)
  | starred (function source : ScriptValue)
  /-- Waits for some seconds. -/
  | sleeping (seconds : Float) (result : ScriptValue) (begun : Bool)
  /-- A value that is there at once. -/
  | given (value : ScriptValue)
  /-- A call that is made when it is waited for. -/
  | later (function : ScriptValue) (given : List ScriptValue)
  | rows (rows : List ScriptValue)
deriving Inhabited

structure ScriptFunction where
  code : ScriptCode
  globals : ObjectPlace
  /-- The names around the function. -/
  outer : ObjectPlace
  defaults : Fields ScriptValue := []
  /-- The mapping of the attributes of the function. -/
  names : ObjectPlace
deriving Inhabited

/-- A class that a script or a module of the library makes. -/
structure MadeKind where
  name : Text
  path : Text
  module : Text
  bases : List ScriptValue
  /-- The class and all that it belongs to, in the order in which attributes are looked for. -/
  order : List ScriptValue
  /-- The mapping of the attributes of the class. -/
  names : ObjectPlace
  /-- The class that the class itself is of. -/
  metaclass : ScriptValue := .kind "type"
deriving Inhabited

/-- What is known about a fault beside its arguments. -/
structure FaultLinks where
  cause : ScriptValue := .nothing
  context : ScriptValue := .nothing
  suppressed : Bool := false
deriving Inhabited

structure ScriptInstance where
  kind : ScriptValue
  /-- The mapping of the attributes. -/
  names : ObjectPlace
  /-- The value of a kind of the library that the instance also is; the arguments of a fault. -/
  content : ScriptValue := .nothing
  links : FaultLinks := {}
deriving Inhabited

/-- How an attribute of a class acts. -/
inductive AttributeWrapper
  | ofClass
  | ofNothing
  /-- Read, set and removed by functions. -/
  | computed
deriving DecidableEq, Repr, Inhabited

/-- A function of the library with values of its own. -/
structure NativeClosure where
  group : String
  name : String
  values : List ScriptValue
  /-- Whether it takes the instance that it is an attribute of. -/
  binds : Bool
  names : ObjectPlace
deriving Inhabited

/-- A connection of a script to a database. -/
structure ScriptConnection where
  /-- Where the database is kept, unless it is private to the connection. -/
  place : Option DatabasePlace
  ownDatabase : Database := Database.empty
  isClosed : Bool := false
  /-- Whether each change of rows counts at once. -/
  isAutomatic : Bool := true
  /-- The database with changes that do not count yet. -/
  pending : Option Database := none
  rowFactory : ScriptValue := .nothing
deriving Inhabited

structure ScriptCursor where
  connection : ObjectPlace
  columns : Option (List Text) := none
  rows : List (List ScriptValue) := []
  rowCount : Int := -1
  lastRow : ScriptValue := .nothing
  isClosed : Bool := false
deriving Inhabited

inductive ScriptObject
  | list (items : Array ScriptValue)
  | mapping (entries : Array (ScriptValue × ScriptValue))
  | set (items : Array ScriptValue) (isFrozen : Bool)
  | buffer (content : Bytes)
  /-- The names of a function and the object with those around it. -/
  | scope (names : Fields ScriptValue) (outer : Option ObjectPlace)
  | function (function : ScriptFunction)
  | closure (closure : NativeClosure)
  | madeKind (kind : MadeKind)
  | instance (value : ScriptInstance)
  | wrapper (wrapper : AttributeWrapper) (values : List ScriptValue)
  | stream (stream : Stream)
  | module (name : Text) (names : ObjectPlace)
  | view (mapping : ObjectPlace) (part : EntryPart)
  | random (source : RandomSource) (spare : Option Float)
  | connection (connection : ScriptConnection)
  | cursor (cursor : ScriptCursor)
  | row (names : List Text) (cells : List ScriptValue)
  /-- An instance with the classes behind one of its classes. -/
  | above (kind owner : ScriptValue)
  | marker (name : String)
deriving Inhabited

/-- What scripts work on. -/
structure ScriptState where
  objects : Array ScriptObject := #[]
  /-- The modules that are loaded, by their names. -/
  modules : Fields ObjectPlace := []
  output : Text := []
  errors : Text := []
  workspace : Workspace
  clock : Clock
  environment : List (Text × Text) := []
  /-- How many functions run inside each other. -/
  depth : Nat := 0
  /-- How many of them run inside functions of the library. -/
  nesting : Nat := 0
  /-- The faults that are being handled, the innermost first. -/
  handled : List ScriptValue := []

/-- Why a script stops. -/
inductive ScriptStop
  | raised (fault : ScriptValue)
  | exhausted
deriving Inhabited

abbrev ScriptAct := ExceptT ScriptStop (StateM ScriptState)

/-- What became of a frame. -/
inductive FrameResult
  | finished (value : ScriptValue)
  /-- It stopped and can go on; it waits, or hands out a value. -/
  | stopped (value : ScriptValue) (waits : Bool) (frame : ScriptFrame)
deriving Inhabited

/-- The arguments of a call. -/
structure ScriptArguments where
  given : List ScriptValue := []
  named : Fields ScriptValue := []
deriving Inhabited

/-- How functions of the library run those of scripts. -/
structure ScriptRunner where
  call : ScriptValue → ScriptArguments → ScriptAct ScriptValue
  /-- Goes on with a function that has stopped, or raises a fault where it has. -/
  resume : ScriptFrame → Option ScriptValue → ScriptAct FrameResult

/-- A part of the run of a script. -/
abbrev ScriptRun := ReaderT ScriptRunner ScriptAct

namespace ScriptRun

/-- Keeps a new object. -/
def keep (object : ScriptObject) : ScriptRun ObjectPlace :=
  modifyGet fun state =>
    (state.objects.size, { state with objects := state.objects.push object })

def keepValue (object : ScriptObject) : ScriptRun ScriptValue := return .object (← keep object)

def objectAt (place : ObjectPlace) : ScriptRun ScriptObject :=
  return (← get).objects.getD place default

def setObject (place : ObjectPlace) (object : ScriptObject) : ScriptRun Unit :=
  modify fun state => { state with objects := state.objects.setIfInBounds place object }

/-- Changes an object in its place. -/
def changeObject (place : ObjectPlace) (change : ScriptObject → ScriptObject) : ScriptRun Unit :=
  modify fun state => { state with objects := state.objects.modify place change }

/-- Calls a value with arguments. -/
def callWith (function : ScriptValue) (arguments : ScriptArguments) : ScriptRun ScriptValue :=
  fun runner => runner.call function arguments

/-- Calls a value with plain arguments. -/
def call (function : ScriptValue) (given : List ScriptValue) : ScriptRun ScriptValue :=
  callWith function { given }

def resume (frame : ScriptFrame) (fault : Option ScriptValue) : ScriptRun FrameResult :=
  fun runner => runner.resume frame fault

/-- Raises a fault. -/
def raise {Value : Type} (fault : ScriptValue) : ScriptRun Value := throw (.raised fault)

def newList (items : List ScriptValue) : ScriptRun ScriptValue := keepValue (.list items.toArray)

def newMapping (entries : List (ScriptValue × ScriptValue)) : ScriptRun ScriptValue :=
  keepValue (.mapping entries.toArray)

def newStream (stream : Stream) : ScriptRun ScriptValue := keepValue (.stream stream)

/-- The entries of the mapping at a place. -/
def entriesAt (place : ObjectPlace) : ScriptRun (Array (ScriptValue × ScriptValue)) := do
  match ← objectAt place with
  | .mapping entries => return entries
  | _ => return #[]

/-- Whether a value is a text. -/
def isText (name : Text) : ScriptValue → Bool
  | .text value => value == name
  | _ => false

/-- The value under a text in the mapping at a place. -/
def field? (place : ObjectPlace) (name : Text) : ScriptRun (Option ScriptValue) := do
  return ((← entriesAt place).find? fun entry => isText name entry.1).map fun entry => entry.2

/-- Puts a value under a text into the mapping at a place. -/
def setField (place : ObjectPlace) (name : Text) (value : ScriptValue) : ScriptRun Unit :=
  changeObject place fun object =>
    match object with
    | .mapping entries =>
        match entries.findIdx? fun entry => isText name entry.1 with
        | some index => .mapping (entries.setIfInBounds index (.text name, value))
        | none => .mapping (entries.push (.text name, value))
    | other => other

/-- Removes the value under a text, and says whether it was there. -/
def removeField (place : ObjectPlace) (name : Text) : ScriptRun Bool := do
  let entries ← entriesAt place
  match entries.findIdx? fun entry => isText name entry.1 with
  | some _ =>
      setObject place (.mapping (entries.filter fun entry => !isText name entry.1))
      return true
  | none => return false

/-- A new mapping of values under texts. -/
def newFields (fields : Fields ScriptValue) : ScriptRun ObjectPlace :=
  keep (.mapping (fields.map fun field => (ScriptValue.text field.1, field.2)).toArray)

end ScriptRun

end EventForge
