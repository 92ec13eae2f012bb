import EventForge.Script.Binding
import EventForge.Script.Code.OfScript
import EventForge.Script.FrameName
import EventForge.Script.LibraryCall
import EventForge.Script.Reading.Statement

/-!
# Calls

Calls of functions of a script, and of scripts within a script.
-/

namespace EventForge

/-!
## Scripts inside scripts

A script can carry out a text, or ask for the value of one that is an expression.  The text knows the
names of the frame that it stands in, or those of mappings that it is given.
-/

namespace ScriptRun

/-- The name of a text in place of that of a file. -/
def innerFile : Text := "<string>"

/-- Refuses a text that is no script. -/
def refuseScript {Value : Type} (error : ScriptError) : ScriptRun Value := do
  let kind :=
    match error.kind with
    | .moduleIndentation => "IndentationError"
    | .raised name => name.toString
    | _ => "SyntaxError"
  refuse kind (error.message innerFile)

/-- The statements of a text. -/
def statementsOfText (content : Text) : ScriptRun (List ScriptStatement) :=
  match Script.ofText content with
  | .ok statements => return statements
  | .error error => refuseScript error

/-- The expression that a text must be. -/
def expressionOfText (content : Text) : ScriptRun ScriptExpression := do
  let content : Text := content.dropWhile fun (point : CodePoint) => point = ' ' || point = '\t'
  match ← statementsOfText content with
  | [.expression value] => return value
  | statements => refuseScript (.grammar "invalid syntax" (min 1 statements.length))

/-- The text that an argument must be. -/
def sourceText (name : Text) (value : ScriptValue) : ScriptRun Text := do
  match ← contentOf value with
  | .text content => return content
  | .unknown => return []
  | content =>
      match ← bytes? content with
      | some bytes =>
          match ← decoded bytes "utf-8" "strict" with
          | .text content => return content
          | _ => return []
      | none => refuseType (name ++ "() arg 1 must be a string, bytes or code object")

/-- The mapping that an argument is, unless nothing is given. -/
def mappingArgument? (refusal : Text) (value : ScriptValue) : ScriptRun (Option ObjectPlace) := do
  match ← contentOf value with
  | .nothing => return none
  | .object place =>
      match ← objectAt place with
      | .mapping _ => return some place
      | _ => refuseType refusal
  | _ => refuseType refusal

/-- Where a text finds its names: those of the whole script, and those that stand in front of them. -/
def namesForText (frame : ScriptFrame) (name : Text) (globals locals : ScriptValue) :
    ScriptRun (ObjectPlace × Option ObjectPlace) := do
  let given ← kindName globals
  let whole ← mappingArgument?
    (if name = ("eval" : Text) then ("globals must be a dict" : Text)
      else name ++ "() globals must be a dict, not " ++ given) globals
  let inner ← mappingArgument? "locals must be a mapping" locals
  match whole, inner with
  | some whole, inner =>
      if (← field? whole "__builtins__").isNone then setField whole "__builtins__" .unknown
      return (whole, inner)
  | none, some inner => return (frame.globals, some inner)
  | none, none =>
      match ← namesHere frame with
      | .object place => return (frame.globals, if place = frame.globals then none else some place)
      | _ => return (frame.globals, none)

/-- The frame of a text that stands in a frame. -/
def frameOfText (frame : ScriptFrame) (name : String) (arguments : ScriptArguments) :
    ScriptRun ScriptFrame := do
  let written := Text.ofString name
  let source ← sourceText written (arguments.given.headD .nothing)
  let (globals, names) ← namesForText frame written (arguments.given.getD 1 .nothing)
    (arguments.given.getD 2 .nothing)
  let scopes : NameScopes := [{ kind := if names.isSome then .classBody else .whole }]
  let code ←
    if name == "eval" then do
      pure (Instruction.ofExpression scopes (← expressionOfText source) ++ [.giveBack])
    else do pure (Instruction.ofStatements scopes (← statementsOfText source))
  return { code, scope := ← keep (.scope [] none), names, globals }

end ScriptRun

/-!
## Calls

The arguments of a call are given by their places or names, or come from collections and mappings.  A
call comes to a value, or to a frame that has to run.
-/

namespace ScriptRun

/-- A callee as it stands in the refusal of its arguments. -/
def calleeText (callee : ScriptValue) : ScriptRun Text := do
  let path ← attribute? callee "__qualname__"
  let module ← attribute? callee "__module__"
  match path, module with
  | some (.text path), some (.text module) =>
      if module = ("builtins" : Text) then return path ++ "()"
      return module ++ "." ++ path ++ "()"
  | some (.text path), _ => return path ++ "()"
  | _, _ => displayText callee

/-- The members of a collection whose members are arguments. -/
def argumentItems (callee value : ScriptValue) : ScriptRun (List ScriptValue) := do
  tryCatch (itemsOf value) fun stop => do
    let isBare := (← method? value "__iter__").isNone && (← method? value "__getitem__").isNone &&
      (← iterateContent? (← contentOf value)).isNone
    if isBare then
      refuseType ((← calleeText callee) ++ " argument after * must be an iterable, not " ++
        (← kindName value))
    throw stop

/-- The entries of a mapping whose entries are named arguments. -/
def argumentEntries (callee value : ScriptValue) : ScriptRun (Fields ScriptValue) := do
  if value.isUnknown then return []
  let entries ←
    match ← entries? (← contentOf value) with
    | some entries => pure entries.toList
    | none =>
        match ← attribute? value "keys" with
        | none =>
            refuseType ((← calleeText callee) ++ " argument after ** must be a mapping, not " ++
              (← kindName value))
        | some keys =>
            (← itemsOf (← call keys [])).mapM fun key => do return (key, ← itemAt value key)
  entries.mapM fun entry => do
    match ← contentOf entry.1 with
    | .text name => return (name, entry.2)
    | _ => refuseType "keywords must be strings"

/-- Adds a named argument to others. -/
def withNamed (callee : ScriptValue) (arguments : ScriptArguments) (name : Text)
    (value : ScriptValue) : ScriptRun ScriptArguments := do
  if (arguments.named.get? name).isSome then
    refuseType ((← calleeText callee) ++ " got multiple values for keyword argument " ++
      Quoted.ofText name)
  return { arguments with named := arguments.named ++ [(name, value)] }

/-- The arguments that values stand for. -/
def argumentsOf (callee : ScriptValue) (arguments : ScriptArguments) :
    List (ArgumentShape × ScriptValue) → ScriptRun ScriptArguments
  | [] => return arguments
  | (shape, value) :: others => do
      match shape with
      | .plain =>
          argumentsOf callee { arguments with given := arguments.given ++ [value] } others
      | .named name => argumentsOf callee (← withNamed callee arguments name value) others
      | .members =>
          let items ← argumentItems callee value
          argumentsOf callee { arguments with given := arguments.given ++ items } others
      | .entries =>
          let entries ← argumentEntries callee value
          argumentsOf callee
            (← entries.foldlM (fun found entry => withNamed callee found entry.1 entry.2)
              arguments) others

/-- The names of the module that runs. -/
def namesOfRunning : ScriptRun ObjectPlace := do
  match (← get).modules.get? (← runningModule) with
  | some place =>
      match ← objectAt place with
      | .module _ names => return names
      | _ => keep (.mapping #[])
  | none => keep (.mapping #[])

/-- What a call comes to.  The fuel bounds how many functions stand for each other. -/
def prepare : Nat → ScriptValue → ScriptArguments → ScriptRun Prepared
  | 0, _, _ => refuseDepth ""
  | fuel + 1, callee, arguments => do
      match callee with
      | .unknown => return .value .unknown
      | .native "" "eval" | .native "" "exec" =>
          let globals ← namesOfRunning
          prepareText { code := [], scope := 0, globals } callee arguments
      | .native group name => return .value (← callNative group name arguments)
      | .kind name => return .value (← callKind name arguments)
      | .bound function owner =>
          prepare fuel function { arguments with given := owner :: arguments.given }
      | .object place =>
          match ← objectAt place with
          | .function function => startFunction function arguments
          | .closure closure => return .value (← callClosure place closure arguments)
          | .madeKind _ =>
              match ← method? callee "__call__" with
              | some method => prepare fuel method arguments
              | none => callMade newValue callee arguments
          | .wrapper .ofNothing (function :: _) => prepare fuel function arguments
          | .marker _ => return .value .unknown
          | .instance _ =>
              match ← method? callee "__call__" with
              | some method => prepare fuel method arguments
              | none => refuseCall callee
          | _ => refuseCall callee
      | callee => refuseCall callee
where
  prepareText (frame : ScriptFrame) (callee : ScriptValue) (arguments : ScriptArguments) :
      ScriptRun Prepared := do
    match callee with
    | .native _ name => return .frame (← frameOfText frame name arguments)
    | _ => return .value .unknown
  refuseCall (callee : ScriptValue) : ScriptRun Prepared := do
    refuseType (Quoted.ofText (← kindName callee) ++ " object is not callable")

/-- What a call comes to where it stands in a frame: some functions look at the frame. -/
def prepareIn (frame : ScriptFrame) (callee : ScriptValue) (arguments : ScriptArguments) :
    ScriptRun Prepared := do
  if callee == .native "" "eval" || callee == .native "" "exec" then
    if let .native _ name := callee then
      return .frame (← frameOfText frame name arguments)
  if arguments.given.isEmpty && arguments.named.isEmpty then
    match callee with
    | .kind "super" => return .value (← instanceAbove frame)
    | .native "" "globals" => return .value (.object frame.globals)
    | .native "" "locals" | .native "" "vars" => return .value (← namesHere frame)
    | .native "" "dir" =>
        let names := ((← entries? (← namesHere frame)).getD #[]).toList.filterMap fun entry =>
          match entry.1 with
          | .text name => some name
          | _ => none
        return .value (← newList ((Text.sort names).map .text))
    | _ => prepare maxNesting callee arguments
  else prepare maxNesting callee arguments

end ScriptRun

end EventForge
