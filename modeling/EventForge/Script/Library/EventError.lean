import EventForge.Script.Library.Closure

/-!
# Errors of event modules

Scripts can raise the errors of schemas, of storage and of monitoring themselves.  Each of their
classes begins an error with a message, a code and the names that the error is about.
-/

namespace EventForge

/-- A class of errors: its name, that of the class below which it stands, and its parameters with
their defaults. -/
structure ErrorClass where
  name : Text
  parent : Text
  parameters : List (Text × Option ScriptValue)

/-- What an error holds when it begins. -/
structure ErrorContent where
  message : ScriptValue
  code : ScriptValue
  details : Fields ScriptValue
  /-- Further attributes. -/
  fields : Fields ScriptValue := []

namespace ErrorClass

/-- The module of the errors. -/
def module : Text := "dbload.eventgen.errors"

/-- The class of all errors. -/
def rootName : Text := "EventGenError"

def root : ErrorClass :=
  { name := rootName, parent := "Exception"
    parameters := [("message", none), ("code", some .nothing), ("details", some .nothing)] }

def schemaName : Text := "SchemaError"

/-- The classes, each behind that below which it stands. -/
def all : List ErrorClass :=
  let optional (name : Text) : Text × Option ScriptValue := (name, some .nothing)
  [root,
    { name := schemaName, parent := rootName
      parameters := [("message", none), ("code", some (.text "SCHEMA_ERROR")), optional "event",
        optional "field_name"] },
    { name := "UnknownTypeError", parent := schemaName
      parameters := [("event", none), ("field_name", none), ("type_name", none)] },
    { name := "MissingTimeFieldError", parent := schemaName, parameters := [("event", none)] },
    { name := "InvalidIdentifierError", parent := schemaName
      parameters := [("event", none), optional "field_name"] },
    { name := "DuplicateNameError", parent := schemaName
      parameters := [("event", none), ("reason", none), optional "field_name"] },
    { name := "MalformedSchemaError", parent := schemaName
      parameters := [("message", none), optional "event"] },
    { name := "SchemaSourceError", parent := schemaName
      parameters := [("message", none), optional "path"] },
    { name := "ConnectionError", parent := rootName
      parameters := [("message", none), optional "address", ("attempts", some (.integer 0))] },
    { name := "MigrationError", parent := rootName
      parameters := [("message", none), optional "table"] },
    { name := "StorageError", parent := rootName
      parameters := [("message", none), optional "table"] },
    { name := "RetrievalError", parent := rootName
      parameters := [("message", none), optional "table", optional "start", optional "end"] },
    { name := "MonitorReadError", parent := rootName
      parameters := [("message", none), optional "path"] }]

def ofName? (name : Text) : Option ErrorClass := all.find? fun found => found.name = name

end ErrorClass

namespace ScriptRun

/-- The place of an error in a schema. -/
def errorPlace (event field : ScriptValue) (isNamed : Bool) : ScriptRun Text := do
  let event ← shownText event
  if isNamed then return event ++ "." ++ (← shownText field) else return event

/-- The content of an error of a class. -/
def errorContent (name : Text) (given : Fields ScriptValue) : ScriptRun ErrorContent := do
  let found (name : Text) : ScriptValue := (given.get? name).getD .nothing
  let message := found "message"
  let ofSchema (message : ScriptValue) (code : ScriptValue) (event field : ScriptValue)
      (fields : Fields ScriptValue) (further : Fields ScriptValue) : ErrorContent :=
    { message, code, details := ("event", event) :: ("field", field) :: further
      fields := ("event", event) :: ("field_name", field) :: fields }
  let event := found "event"
  let field := found "field_name"
  match name.toString with
  | "SchemaError" => return ofSchema message (found "code") event field [] []
  | "UnknownTypeError" =>
      let place ← errorPlace event field true
      let typeName ← shownText (found "type_name")
      return ofSchema (.text (("error validating " : Text) ++ place ++ ": unknown type '" ++
        typeName ++ "'")) (.text "UNKNOWN_TYPE") event field
        [("type_name", found "type_name")] []
  | "MissingTimeFieldError" =>
      let place ← errorPlace event field false
      return ofSchema (.text (("error validating " : Text) ++ place ++ ": no time field"))
        (.text "MISSING_TIME_FIELD") event .nothing [] []
  | "InvalidIdentifierError" =>
      let isNamed := field != .nothing
      let place ← errorPlace event field isNamed
      let name ← shownText (if isNamed then field else event)
      return ofSchema (.text (("error validating " : Text) ++ place ++ ": '" ++ name ++
        "' is not a valid identifier")) (.text "INVALID_IDENTIFIER") event field [] []
  | "DuplicateNameError" =>
      let place ← errorPlace event field (← isTrue field)
      let reason ← shownText (found "reason")
      return ofSchema (.text (("error validating " : Text) ++ place ++ ": " ++ reason))
        (.text "DUPLICATE_NAME") event field [] []
  | "MalformedSchemaError" =>
      return ofSchema message (.text "MALFORMED_SCHEMA") event .nothing [] []
  | "SchemaSourceError" =>
      return ofSchema message (.text "SCHEMA_SOURCE_ERROR") .nothing .nothing
        [("path", found "path")] [("path", found "path")]
  | "ConnectionError" =>
      return {
        message, code := .text "CONNECTION_ERROR"
        details := [("address", found "address"), ("attempts", found "attempts")]
        fields := [("address", found "address"), ("attempts", found "attempts")] }
  | "MigrationError" =>
      return { message, code := .text "MIGRATION_ERROR", details := [("table", found "table")]
               fields := [("table", found "table")] }
  | "StorageError" =>
      return { message, code := .text "STORAGE_ERROR", details := [("table", found "table")]
               fields := [("table", found "table")] }
  | "RetrievalError" =>
      return {
        message, code := .text "RETRIEVAL_ERROR"
        details := [("table", found "table"), ("start", found "start"), ("end", found "end")]
        fields := [("table", found "table")] }
  | _ =>
      return { message, code := .text "MONITOR_READ_ERROR", details := [("path", found "path")]
               fields := [("path", found "path")] }

/-- The names that a function of the library has when it begins. -/
def libraryArguments (path : Text) (parameters : List (Text × Option ScriptValue))
    (arguments : ScriptArguments) : ScriptRun (Fields ScriptValue) :=
  boundNames path
    (parameters.map fun (name, standard) =>
      { shape := .plain, name, hasDefault := standard.isSome })
    (parameters.filterMap fun (name, standard) => standard.map fun value => (name, value))
    arguments

/-- Begins an error of a class. -/
def beginError (name : Text) (arguments : ScriptArguments) : ScriptRun ScriptValue := do
  let some errorClass := ErrorClass.ofName? name | return .nothing
  let given ← libraryArguments (name ++ ".__init__")
    (("self", none) :: errorClass.parameters) arguments
  let owner := (given.head?.map fun entry => entry.2).getD .nothing
  let given : Fields ScriptValue := given.drop 1
  let (content, details) ←
    if name = ErrorClass.rootName then do
      let code := (given.get? "code").getD .nothing
      let details := (given.get? "details").getD .nothing
      let code := if ← isTrue code then code else .text "EVENTGEN_ERROR"
      let details ← if ← isTrue details then pure details else newMapping []
      pure (({ message := (given.get? "message").getD .nothing, code, details := [] } :
        ErrorContent), details)
    else do
      let content ← errorContent name given
      let code := if ← isTrue content.code then content.code else .text "EVENTGEN_ERROR"
      let details ← newMapping (content.details.map fun field =>
        (ScriptValue.text field.1, field.2))
      pure ({ content with code }, details)
  beginPlainly owner { given := [content.message] }
  setAttribute owner "message" content.message
  setAttribute owner "code" content.code
  setAttribute owner "details" details
  for field in content.fields do
    setAttribute owner field.1 field.2
  return .nothing

/-- Makes the classes of errors, behind those that are there. -/
def errorClasses (made : Fields ScriptValue) : List ErrorClass → ScriptRun (Fields ScriptValue)
  | [] => return made
  | errorClass :: others => do
      let starter ← newClosure "errors" errorClass.name.toString [.text errorClass.name] true
        [("__name__", .text "__init__"), ("__qualname__", .text (errorClass.name ++ ".__init__"))]
      let names ← newFields [("__module__", .text ErrorClass.module), ("__init__", starter)]
      let parent := (made.get? errorClass.parent).getD (.kind "Exception")
      let kind ← makeClass {
        name := errorClass.name, path := errorClass.name, module := ErrorClass.module
        bases := [parent], names }
      errorClasses (made ++ [(errorClass.name, kind)]) others

end ScriptRun

end EventForge
