import EventForge.Files
import EventForge.Schema.Entity
import EventForge.Schema.Validation

/-!
# Compilation and loading

An accepted schema is compiled, and a schema is loaded from its source.
-/

namespace EventForge

/-!
## Compilation

Each event becomes an entity whose fields are the declared ones in the order of their names,
followed by the time of creation.  The result depends on the declarations only, never on their
order.
-/

/-- Why a schema source does not compile. -/
inductive CompileFault
  | invalid (error : InvalidSchema)
  | model (fault : ModelFault)
deriving DecidableEq, Repr

namespace CompileFault

def fault : CompileFault → Fault
  | .invalid error => error.fault
  | .model fault => fault.fault

end CompileFault

namespace Compilation

/-- The generator of the field that range queries select. -/
def timeGenerator : Text := "random_time_value"

/-- The generator of the creation time. -/
def creationGenerator : Text := "now_millis"

/-- A declared field. -/
def declaredField (name : Text) (type : Document) (position : Nat) : Except ModelFault Field :=
  match ScalarType.ofDocument? type with
  | none => .error (.unknownLabel type.plain)
  | some scalar =>
      let isTime := name == timeName
      Field.make (Identifier.attributeName name) name scalar position isTime true
        (if isTime then timeGenerator else scalar.generator)
        (("generated based on " : Text) ++ name ++ " with type " ++ type.plain)

/-- The field of the creation time. -/
def creationField (position : Nat) : Except ModelFault Field :=
  Field.make Entity.creationColumn Entity.creationColumn .timestamp position false true
    creationGenerator "added by the generator so all types have created_at"

/-- Declared fields from a position on. -/
def declaredFields (position : Nat) : Fields Document → Except ModelFault (List Field)
  | [] => .ok []
  | (name, type) :: fields => do
      let field ← declaredField name type position
      let others ← declaredFields (position + 1) fields
      return field :: others

/-- The entity of an event. -/
def compileEvent (event : RawEvent) : Except ModelFault Entity := do
  let declared ← declaredFields 0 (Validation.sortFields event.typeMapping)
  let creation ← creationField declared.length
  let fields := declared ++ [creation]
  let (insertTemplate, projectedColumns) := Entity.fragments fields
  Entity.make (Identifier.camelCase event.name) event.name fields insertTemplate projectedColumns
    event.typeLabel

/-- The compiled form of a validated schema; `sourcePath` overrides the path it was read from. -/
def compile (schema : ValidatedSchema) (sourcePath : Option Text) :
    Except ModelFault CompiledSchema := do
  let entities ← schema.events.mapM compileEvent
  CompiledSchema.make entities (sourcePath <|> schema.path)

/-- Validates and compiles a schema. -/
def compileRaw (schema : RawSchema) (sourcePath : Option Text) :
    Except CompileFault CompiledSchema := do
  let validated ← (Validation.validate schema).mapError CompileFault.invalid
  (compile validated sourcePath).mapError CompileFault.model

end Compilation

/-!
## Loading schema sources

A schema source is read from a file whose suffix decides between JSON and YAML.  A file that cannot
be read or decoded is an error of the schema; a path that names nothing, a scalar whose tag does not
fit its text, a text that is nested too deeply, and a value that cannot be shown escape as the fault
that they are.
-/

/-- Why a schema file is not loaded. -/
inductive LoadError
  | schema (error : SchemaError)
  | path (fault : FileFault)
  | decoding (fault : DecodeFault)
  | display (fault : Document.DisplayFault)
  | model (fault : ModelFault)

namespace LoadError

def fault : LoadError → Fault
  | .schema error => error.fault
  | .path fault => fault.fault
  | .decoding fault => fault.fault
  | .display fault => Fault.ofDisplay fault
  | .model fault => fault.fault

/-- The error for a file that cannot be read. -/
def ofReading (path : Text) : FileFault → LoadError
  | .nullByte => .path .nullByte
  | .unencodable error => .path (.unencodable error)
  | fault => .schema (.unreadable path fault.message)

/-- The error for a document of the wrong shape. -/
def ofShape : ShapeFault → LoadError
  | .malformed malformation => .schema (.malformed malformation)
  | .display fault => .display fault

/-- The error for a schema that does not compile. -/
def ofCompiling : CompileFault → LoadError
  | .invalid (.schema error) => .schema error
  | .invalid (.display fault) => .display fault
  | .model fault => .model fault

/-- The error for bytes that hold no document. -/
def ofDecoding (path : Text) (decoding : DecodeFault) : LoadError :=
  let fault := decoding.fault
  if fault.kind.isValue || fault.kind == .yamlSyntax then
    .schema (.undecodable path fault.message)
  else .decoding decoding

end LoadError

namespace Source

/-- The schema in a file. -/
def load (yaml : YamlReader) (tree : FileTree) (path : Text) : Except LoadError RawSchema := do
  let absolute := tree.resolve path
  let content ← (tree.read absolute).mapError (LoadError.ofReading absolute)
  let document ← (decode yaml content (FilePath.suffix absolute)).mapError
    (LoadError.ofDecoding absolute)
  (parse document (some absolute)).mapError LoadError.ofShape

/-- The compiled schema in a file. -/
def compileFile (yaml : YamlReader) (tree : FileTree) (path : Text) :
    Except LoadError CompiledSchema := do
  let raw ← load yaml tree path
  (Compilation.compileRaw raw none).mapError LoadError.ofCompiling

end Source

end EventForge
