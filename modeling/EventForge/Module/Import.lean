import EventForge.Module.Library
import EventForge.Module.Reader
import EventForge.Script.Encoding
import EventForge.Script.Reading.Statement
import EventForge.Script.Session

/-!
# Finding and loading event modules

A reference names a module by the path of its file or by a dotted name.  The file of an event module
ends in `.py`.  A file in the written form of event modules is read by its declarations.  Any other
one is run as a script, which makes an event module if it has the attributes that every event module
has.  The modules that can be found by a dotted name have none of them.
-/

namespace EventForge

/-- How a reference names a module. -/
inductive ModuleReference
  | file (path : Text)
  | dotted (name : Text)
deriving DecidableEq, Repr

namespace ModuleReference

/-- The ending of the files of modules. -/
def fileEnding : Text := ".py"

/-- A reference with a slash or with the ending of module files is a path. -/
def ofText (reference : Text) : ModuleReference :=
  if reference.endsWith fileEnding || reference.contains (CodePoint.ofChar '/') then
    .file reference
  else .dotted reference

end ModuleReference

/-- Why a reference gives no event module. -/
inductive ImportFault
  /-- The file does not end as the files of modules do. -/
  | noModuleFile (path : Text)
  | unreadable (fault : FileFault)
  /-- An attribute hides the mark of class methods. -/
  | hiddenMark
  /-- The text of the file is no script. -/
  | noScript (file : Text) (error : ScriptError)
  /-- The script of the file, or what it says about itself, raises a fault. -/
  | raised (fault : RaisedFault)
  | absent (absence : ModuleLibrary.Absence)
  | emptyName
  | relativeName (name : Text)
  /-- The module lacks attributes of an event module. -/
  | foreign (reference : Text) (lacking : List Text)
  | noEvents (reference : Text)

namespace ImportFault

def message : ImportFault → Text
  | .noModuleFile path => ("Cannot import events module from " : Text) ++ path
  | .unreadable fault => fault.message
  | .hiddenMark => "'int' object is not callable"
  | .noScript file error => error.message file
  | .raised fault => fault.message
  | .absent absence => absence.message
  | .emptyName => "Empty module name"
  | .relativeName name =>
      ("the 'package' argument is required to perform a relative import for " : Text) ++
        Quoted.ofText name
  | .foreign reference lacking =>
      ("Module " : Text) ++ reference ++ " is not a generated events module (missing " ++
        Text.bracketed (lacking.map Quoted.ofText) ++ ")"
  | .noEvents reference => ("Module " : Text) ++ reference ++ " defines no event types"

def kind : ImportFault → FaultKind
  | .noModuleFile _ => .unloadable
  | .unreadable fault => fault.kind
  | .noScript _ error => error.kind
  | .raised fault => fault.fault.kind
  | .absent _ => .missingModule
  | .hiddenMark | .relativeName _ => .type
  | .emptyName | .foreign _ _ | .noEvents _ => .value

def fault : ImportFault → Fault
  | .raised fault => fault.fault
  | other => Fault.plain other.kind other.message

/-- Whether a command reports the fault and goes on: a module that cannot be found, or a value that
is refused. -/
def isExpected : ImportFault → Bool
  | .raised fault => fault.isOf "ImportError" || fault.isOf "ValueError"
  | other => other.kind.isImport || other.kind.isValue

end ImportFault

/-- An event module that is found. -/
inductive LoadedModule
  | declared (module : EventModule)
  /-- A script, as the object of a session, with the source and the fingerprint that it records. -/
  | scripted (module : ObjectPlace) (source : Option Text) (fingerprint : Text)

/-- What a module declares.  The events of a script are known to its functions alone. -/
def LoadedModule.declarations : LoadedModule → EventModule
  | .declared module => module
  | .scripted _ source fingerprint => { source, fingerprint, generators := [], classes := [] }

namespace ScriptRun

/-- The names among some that are no attributes of a value. -/
def namesLacking (value : ScriptValue) (names : List Text) : ScriptRun (List Text) :=
  names.filterM fun name => do return (← attribute? value name).isNone

/-- The attribute of a value as a text, if it is one. -/
def textAttribute? (value : ScriptValue) (name : Text) : ScriptRun (Option Text) := do
  match ← attribute? value name with
  | some (.text found) => return some found
  | _ => return none

end ScriptRun

namespace ModuleImport

def generatorsName : Text := "RANDOM_GENERATOR_CONSTRUCTORS"

def classesName : Text := "EVENT_TYPES"

def sourceName : Text := "TYPE_MAPPING_SOURCE"

def fingerprintName : Text := "SCHEMA_FINGERPRINT"

/-- The names that make an event module. -/
def required : List Text :=
  [sourceName, fingerprintName, generatorsName, classesName, "migrate"]

/-- Why a dotted name gives no event module. -/
def namedFault (name : Text) : ImportFault :=
  if name.isEmpty then .emptyName
  else if name.startsWith "." then .relativeName name
  else
    match ModuleLibrary.absence? name with
    | some absence => .absent absence
    | none => .foreign name required

/-- The name under which the module of a file runs. -/
def runningName (path : Text) : Text :=
  let name := FilePath.lastName path
  let isHidden := name = ModuleReference.fileEnding
  ("eventgen_generated_" : Text) ++
    (if isHidden then name else name.take (name.length - ModuleReference.fileEnding.length))

/-- The event module that a script makes which has run. -/
def ofScript (reference : Text) (place : ObjectPlace) :
    ScriptRun (Except ImportFault LoadedModule) := do
  let module : ScriptValue := .object place
  let lacking ← ScriptRun.namesLacking module required
  if !lacking.isEmpty then return .error (.foreign reference lacking)
  let generators ← ScriptRun.attributeOf module generatorsName
  if !(← ScriptRun.isTrue generators) then return .error (.noEvents reference)
  let _ ← ScriptRun.lengthOf (← ScriptRun.attributeOf module classesName)
  let _ ← ScriptRun.attributeOf module "__name__"
  let _ ← ScriptRun.attributeOf module fingerprintName
  return .ok (.scripted place (← ScriptRun.textAttribute? module sourceName)
    ((← ScriptRun.textAttribute? module fingerprintName).getD []))

/-- Runs the text of a file as a script. -/
def runScript (session : ScriptState) (reference path text : Text) :
    Except ImportFault LoadedModule × ScriptState :=
  match Script.ofText text with
  | .error error => (.error (.noScript (FilePath.lastName path) error), session)
  | .ok statements =>
      let code := ScriptCode.ofScript statements
      let act : ScriptRun (Except ImportFault LoadedModule) := do
        ofScript reference (← ScriptRun.runModule (runningName path) path code)
      match session.perform act with
      | (.ok found, session) => (found, session)
      | (.error fault, session) => (.error (.raised fault), session)

/-- Reads the content of a file. -/
def ofContent (session : ScriptState) (reference path : Text) (content : Bytes) :
    Except ImportFault LoadedModule × ScriptState :=
  match Script.textOf content with
  | .error error => (.error (.noScript (FilePath.lastName path) error), session)
  | .ok text =>
      match ModuleText.read text with
      | .ok module =>
          (if module.classes.isEmpty then .error (.noEvents reference) else .ok (.declared module),
            session)
      | .error .hiddenMark => (.error .hiddenMark, session)
      | .error .foreign => runScript session reference path text

/-- Finds the module that a reference names among the files of a session, and loads it. -/
def perform (session : ScriptState) (reference : Text) :
    Except ImportFault LoadedModule × ScriptState :=
  match ModuleReference.ofText reference with
  | .dotted name => (.error (namedFault name), session)
  | .file path =>
      let files := session.workspace.files
      let resolved := files.resolve path
      if resolved.endsWith ModuleReference.fileEnding then
        match files.read resolved with
        | .error fault => (.error (.unreadable fault), session)
        | .ok content => ofContent session reference resolved content
      else (.error (.noModuleFile resolved), session)

/-- The declarations of the event module that a reference names. -/
def load (files : FileTree) (reference : Text) : Except ImportFault EventModule :=
  (perform (ScriptState.opening { files } ⟨0⟩ []) reference).1.map LoadedModule.declarations

end ModuleImport

end EventForge
