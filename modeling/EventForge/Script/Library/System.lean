import EventForge.Script.Library.Context
import EventForge.Script.Library.Database

/-!
# The system around scripts

A script can print, read files, ask for the time and for the variables of its environment, and end
the program.
-/

namespace EventForge

namespace ScriptRun

/-- Writes a text to the output or to the error output. -/
def writeOutput (isError : Bool) (shown : Text) : ScriptRun Unit :=
  modify fun state =>
    if isError then { state with errors := state.errors ++ shown }
    else { state with output := state.output ++ shown }

/-- The name of a marker. -/
def markerName? (value : ScriptValue) : ScriptRun (Option String) := do
  match value with
  | .object place =>
      match ← objectAt place with
      | .marker name => return some name
      | _ => return none
  | _ => return none

/-- Prints values. -/
def printValues (arguments : ScriptArguments) : ScriptRun ScriptValue := do
  for (name, _) in arguments.named do
    if !([("sep" : Text), "end", "file", "flush"].contains name) then
      refuseType (Quoted.ofText name ++ " is an invalid keyword argument for print()")
  let part (key standard : Text) : ScriptRun Text := do
    match arguments.named.get? key with
    | some .nothing | none => return standard
    | some value =>
        textOf value fun kind => key ++ " must be None or a string, not " ++ kind
  let separator ← part "sep" " "
  let ending ← part "end" "\n"
  let pieces ← arguments.given.mapM shownText
  let line := Text.join separator pieces ++ ending
  match arguments.named.get? "file" with
  | none | some .nothing => writeOutput false line
  | some file =>
      match ← markerName? file with
      | some "sys.stderr" => writeOutput true line
      | some _ => writeOutput false line
      | none =>
          if file.isUnknown then return .nothing
          let _ ← call (← attributeOf file "write") [.text line]
  return .nothing

/-- Ends the program with a status. -/
def exitWith {Value : Type} (given : List ScriptValue) : ScriptRun Value :=
  raiseWith "SystemExit" given

/-- Raises the fault of a file. -/
def refuseFile {Value : Type} (path : Text) (fault : FileFault) : ScriptRun Value :=
  let system (kind : String) (number : Int) (reason : Text) : ScriptRun Value := do
    raise (← newFault (.kind kind) [.integer number, .text reason] [("filename", .text path)])
  match fault.kind with
  | .missingFile => system "FileNotFoundError" 2 "No such file or directory"
  | .isDirectory => system "IsADirectoryError" 21 "Is a directory"
  | .notDirectory => system "NotADirectoryError" 20 "Not a directory"
  | .fileExists => system "FileExistsError" 17 "File exists"
  | .value => refuseValue fault.message
  | _ => refuse "OSError" fault.message

/-- A file that is open: its content as a text or as bytes, and how far it has been read. -/
def newFile (path mode : Text) (content : ScriptValue) : ScriptRun ScriptValue :=
  newInstance (.kind "_io.TextIOWrapper") .nothing
    [("name", .text path), ("mode", .text mode), ("content", content), ("position", .integer 0),
      ("closed", .bool false)]

/-- The text in which bytes are written, with its line ends made alike. -/
def textOfFile (content : Bytes) : ScriptRun Text := do
  match ← decoded content "utf-8" "strict" with
  | .text content =>
      return Text.join "\n" (content.splitPair '\r' '\n' |>.map fun line =>
        line.replacePoint '\r' '\n')
  | _ => return []

/-- Opens a file. -/
def openFile (arguments : ScriptArguments) : ScriptRun ScriptValue := do
  let path := arguments.given.headD ((arguments.named.get? "file").getD .nothing)
  let path ←
    match ← contentOf path with
    | .text path => pure path
    | .unknown => return .unknown
    | _ =>
        refuseType (("expected str, bytes or os.PathLike object, not " : Text) ++ (← kindName path))
  let mode := arguments.given.getD 1 ((arguments.named.get? "mode").getD (.text "r"))
  let mode ← textOf mode fun kind =>
    ("open() argument 'mode' must be str, not " : Text) ++ kind
  let state ← get
  let has (letter : CodePoint) : Bool := mode.contains letter
  if has 'r' && !has '+' then
    match state.workspace.files.read path with
    | .error fault => refuseFile path fault
    | .ok content =>
        if has 'b' then newFile path mode (.bytes content)
        else newFile path mode (.text (← textOfFile content))
  else
    let before : Bytes :=
      match has 'w', state.workspace.files.read path with
      | false, .ok content => content
      | _, _ => []
    if has 'x' then
      if let .ok _ := state.workspace.files.read path then
        raise (← newFault (.kind "FileExistsError") [.integer 17, .text "File exists"]
          [("filename", .text path)])
    match state.workspace.files.write path before with
    | .error fault => refuseFile path fault
    | .ok files =>
        modify fun state => { state with workspace := { state.workspace with files } }
        if has 'b' then newFile path mode (.bytes before)
        else newFile path mode (.text (← textOfFile before))

/-- What is left of an open file. -/
def fileRest (names : ObjectPlace) : ScriptRun (ScriptValue × Nat) := do
  let position := (((← field? names "position").getD .nothing).integer?).getD 0
  return ((← field? names "content").getD .nothing, position.toNat)

/-- Lines with their ends. -/
def linesOf (content : Text) : List Text :=
  content.splitLines (· = '\n') true (content.length + 1)

/-- The methods of open files. -/
def fileMethod (name : String) (owner : ScriptValue) (names : ObjectPlace)
    (arguments : ScriptArguments) : ScriptRun ScriptValue := do
  let (content, position) ← fileRest names
  let advance (count : Nat) : ScriptRun Unit :=
    setField names "position" (.integer (position + count : Nat))
  if (← field? names "closed") == some (.bool true) && name != "close" && name != "__exit__" then
    refuseValue "I/O operation on closed file."
  let rest : Text :=
    match content with
    | .text content => content.drop position
    | _ => []
  match name with
  | "read" =>
      match content with
      | .bytes content =>
          advance content.length
          return .bytes (content.drop position)
      | _ =>
          let count := match arguments.given with
            | .integer count :: _ => if count < 0 then rest.length else count.toNat
            | _ => rest.length
          advance (rest.take count).length
          return .text (rest.take count)
  | "readline" | "__next__" =>
      match linesOf rest with
      | line :: _ =>
          advance line.length
          return .text line
      | [] => if name == "readline" then return .text [] else raiseWith "StopIteration" []
  | "readlines" =>
      advance rest.length
      newList ((linesOf rest).map .text)
  | "write" =>
      let path : Text ←
        match ← field? names "name" with
        | some (.text path) => pure path
        | _ => pure []
      let written := arguments.given.headD .nothing
      let whole ← operate "+" content written
      setField names "content" whole
      let bytes : Bytes ←
        match whole with
        | .bytes content => pure content
        | .text content =>
            match ← encoded content "utf-8" "strict" with
            | .bytes content => pure content
            | _ => pure []
        | _ => pure []
      match (← get).workspace.files.write path bytes with
      | .error fault => refuseFile path fault
      | .ok files =>
          modify fun state => { state with workspace := { state.workspace with files } }
          match ← size? written with
          | some size => return .integer size
          | none => return .nothing
  | "__enter__" | "__iter__" => return owner
  | "close" | "__exit__" =>
      setField names "closed" (.bool true)
      return .nothing
  | _ => return .nothing

/-- The functions of the modules for the system and its paths. -/
def systemTool (name : String) (arguments : ScriptArguments) : ScriptRun ScriptValue := do
  let given := arguments.given
  let files := (← get).workspace.files
  match name, given with
  | "exit", given => exitWith given
  | "getenv", key :: standard =>
      let key ← textOf key fun kind => ("str expected, not " : Text) ++ kind
      match (← get).environment.find? fun entry => entry.1 == key with
      | some entry => return .text entry.2
      | none => return standard.headD .nothing
  | "getcwd", _ => return .text files.home
  | "intern", [value] => return value
  | "getrecursionlimit", _ => return .integer 1000
  | "exc_info", _ =>
      match (← get).handled with
      | fault :: _ => return .tuple [← kindOf fault, fault, .nothing]
      | [] => return .tuple [.nothing, .nothing, .nothing]
  | "exception", _ => return (← get).handled.headD .nothing
  | "fspath", [value] => return value
  | "exists", [.text path] => return .bool (files.isThere path).toOption.isSome
  | "isfile", [.text path] =>
      return .bool (match files.look path with
        | .ok (.file _) => true
        | _ => false)
  | "isdir", [.text path] =>
      return .bool (match files.look path with
        | .ok .directory => true
        | _ => false)
  | "basename", [.text path] =>
      return .text (path.reverse.takeWhile fun (point : CodePoint) => point ≠ '/').reverse
  | "dirname", [.text path] =>
      let lead := (path.reverse.dropWhile fun (point : CodePoint) => point ≠ '/').reverse
      let trimmed := (lead.reverse.dropWhile fun (point : CodePoint) => point = '/').reverse
      return .text (if trimmed.isEmpty then lead else trimmed)
  | "abspath", [.text path] => return .text (files.resolve path)
  | "join", parts =>
      let texts ← parts.mapM fun part => textOf part fun kind =>
        ("expected str, bytes or os.PathLike object, not " : Text) ++ kind
      return .text (texts.foldl (fun (path : Text) part =>
        if part.startsWith "/" || path.isEmpty then part
        else if path.endsWith "/" then path ++ part
        else path ++ "/" ++ part) [])
  | _, _ => return .unknown

/-- The functions of the module for time. -/
def timeTool (name : String) (arguments : ScriptArguments) : ScriptRun ScriptValue := do
  let clock := (← get).clock
  match name with
  | "time" =>
      match clock.time? with
      | some seconds => return .float seconds
      | none => refuseOverflow "int too large to convert to float"
  | "time_ns" => return .integer clock.nanoseconds
  | "sleep" =>
      let _ ← oneArgument "sleep" arguments
      return .nothing
  | _ => return .unknown

/-- The functions for what happens side by side. -/
def waitingTool (name : String) (arguments : ScriptArguments) : ScriptRun ScriptValue := do
  match name, arguments.given with
  | "sleep", seconds :: result =>
      match ← real? seconds with
      | some seconds => newStream (.sleeping seconds (result.headD .nothing) false)
      | none => return .unknown
  | _, _ => return .unknown

end ScriptRun

end EventForge
