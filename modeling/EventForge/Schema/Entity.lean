import EventForge.Digest.Sha256
import EventForge.Schema.Error

/-!
# Entities

Fields, the entities that they make up, and the schema of all entities.
-/

namespace EventForge

/-!
## Fields

A field is one column of an event table together with the attribute that holds it and the generator
that makes its values.
-/

structure Field where
  /-- The attribute. -/
  name : Text
  /-- The declared name, which is the column. -/
  declaredName : Text
  type : ScalarType
  /-- The place among the fields of the event. -/
  position : Nat
  /-- Whether queries select a range of this field. -/
  isTime : Bool := false
  /-- Whether storing an event writes this field. -/
  insertable : Bool := true
  generator : Text := []
  /-- The remark above the attribute. -/
  comment : Text := []
deriving DecidableEq, Repr, Inhabited

namespace Field

/-- The field with the given parts: it has a name, and its position is not negative. -/
def make (name declaredName : Text) (type : ScalarType) (position : Int) (isTime insertable : Bool)
    (generator comment : Text) : Except ModelFault Field :=
  if name.isEmpty then .error .emptyFieldName
  else if position < 0 then .error (.negativePosition position)
  else
    .ok { name, declaredName, type, position := position.toNat, isTime, insertable, generator,
          comment }

def width (field : Field) : Nat := field.type.width

def columnType (field : Field) : Text := field.type.columnType

def toJson (field : Field) : Json :=
  let parts : List (Text × Json) :=
    [("name", .text field.name), ("original_name", .text field.declaredName),
      ("type", .text field.type.label), ("position", .integer field.position),
      ("generator", .text field.generator)]
  .object (parts ++ (if field.isTime then [(("time_field" : Text), Json.bool true)] else []) ++
      (if field.insertable then [] else [(("insertable" : Text), Json.bool false)]))

end Field

/-!
## Entities

An entity is one event type: its fields and the parts of the statements that store and retrieve it.
The statements name the columns in the order of the fields that are stored, and the placeholder of a
column carries its number.
-/

structure Entity where
  /-- The name in camel case. -/
  name : Text
  /-- The declared name, which is the table. -/
  declaredName : Text
  fields : List Field
  /-- The placeholders of the stored fields. -/
  insertTemplate : Text
  /-- The columns of the stored fields. -/
  projectedColumns : Text
  typeLabel : Text := []
deriving DecidableEq, Repr, Inhabited

namespace Entity

/-- The column that records when an event was made. -/
def creationColumn : Text := "created_at"

/-- The placeholder of the value with a number. -/
def placeholder (number : Nat) : Text := ("$" : Text) ++ Text.ofNat number

/-- The placeholders and the columns of the stored fields. -/
def fragments (fields : List Field) : Text × Text :=
  let stored := fields.filter fun field => field.insertable
  (Text.join ", " ((List.range stored.length).map fun index => placeholder (index + 1)),
    Text.join ", " (stored.map fun field => field.declaredName))

/-- The first number, counted from `number`, at which placeholder, column and field do not belong
together. -/
def misalignment? (number : Nat) : List Text → List Text → List Field → Option Nat
  | given :: placeholders, column :: columns, field :: fields =>
      if column ≠ field.declaredName ∨ given ≠ placeholder number then some number
      else misalignment? (number + 1) placeholders columns fields
  | _, _, _ => none

/-- The entity with the given parts: exactly one field is the time, the last field is the creation
time, and the fragments are aligned with the stored fields. -/
def make (name declaredName : Text) (fields : List Field)
    (insertTemplate projectedColumns typeLabel : Text) : Except ModelFault Entity := do
  let times := fields.filter fun field => field.isTime
  if times.isEmpty then throw (.noTimeField declaredName)
  if 1 < times.length then throw (.manyTimeFields declaredName)
  match fields.getLast? with
  | none => throw (.noCreationTime declaredName)
  | some last =>
      if last.declaredName ≠ creationColumn ∨ last.type ≠ .timestamp then
        throw (.noCreationTime declaredName)
  let placeholders := insertTemplate.splitPair ',' ' '
  let columns := projectedColumns.splitPair ',' ' '
  let stored := fields.filter fun field => field.insertable
  if placeholders.length ≠ columns.length ∨ columns.length ≠ stored.length then
    throw (.fragmentCounts declaredName placeholders.length columns.length stored.length)
  match misalignment? 1 placeholders columns stored with
  | some number => throw (.misaligned declaredName number)
  | none => return { name, declaredName, fields, insertTemplate, projectedColumns, typeLabel }

def className (entity : Entity) : Text := entity.name ++ "Event"

/-- The field that range queries select. -/
def timeField? (entity : Entity) : Option Field := entity.fields.find? fun field => field.isTime

/-- The column that range queries select. -/
def timeColumn (entity : Entity) : Text :=
  (entity.timeField?.map fun field => field.declaredName).getD []

/-- The fields that storing an event writes. -/
def stored (entity : Entity) : List Field := entity.fields.filter fun field => field.insertable

/-- Columns with their types in field order. -/
def columnDefinitions (entity : Entity) : List (Text × Text) :=
  entity.fields.map fun field => (field.declaredName, field.columnType)

/-- The statement that stores an event. -/
def insertStatement (entity : Entity) : Text :=
  ("INSERT INTO " : Text) ++ entity.declaredName ++ " (" ++ entity.projectedColumns ++
    ") VALUES (" ++ entity.insertTemplate ++ ")"

/-- The statement that retrieves the events of a time range. -/
def selectStatement (entity : Entity) : Text :=
  ("SELECT " : Text) ++ entity.projectedColumns ++ " FROM " ++ entity.declaredName ++ " WHERE " ++
    entity.timeColumn ++ " BETWEEN $1 AND $2"

/-- The first field with a name, as attribute or as column. -/
def field? (entity : Entity) (name : Text) : Option Field :=
  entity.fields.find? fun field => name == field.name || name == field.declaredName

def toJson (entity : Entity) : Json :=
  .object [("name", .text entity.name), ("original_name", .text entity.declaredName),
    ("type", .text entity.typeLabel), ("fields", .list (entity.fields.map Field.toJson)),
    ("insert_template", .text entity.insertTemplate),
    ("projected_columns", .text entity.projectedColumns)]

end Entity

/-!
## Compiled schemas

A compiled schema is the list of its entities in the order of their declared names.  Its fingerprint
is the digest of the entities written as JSON with sorted members and no blanks.
-/

structure CompiledSchema where
  entities : List Entity
  /-- The file that the schema was read from. -/
  sourcePath : Option Text
deriving DecidableEq, Repr, Inhabited

namespace CompiledSchema

/-- Whether each text is at most the next one. -/
def areSorted : List Text → Bool
  | first :: second :: texts => Text.le first second && areSorted (second :: texts)
  | _ => true

/-- The schema of entities that are in the order of their declared names. -/
def make (entities : List Entity) (sourcePath : Option Text) : Except ModelFault CompiledSchema :=
  if areSorted (entities.map fun entity => entity.declaredName) then
    .ok { entities, sourcePath }
  else .error .unsortedEntities

/-- The text whose digest is the fingerprint. -/
def canonicalText (schema : CompiledSchema) : Text :=
  (Json.list (schema.entities.map Entity.toJson)).sorted.compact

def fingerprint (schema : CompiledSchema) : Text :=
  ("sha256:" : Text) ++ Sha256.hexDigest (Utf8.encodeAll schema.canonicalText)

/-- The first entity with a name, in camel case or as declared. -/
def entity? (schema : CompiledSchema) (name : Text) : Option Entity :=
  schema.entities.find? fun entity => name == entity.name || name == entity.declaredName

def toJson (schema : CompiledSchema) : Json :=
  .object [("source", Json.ofText? schema.sourcePath), ("fingerprint", .text schema.fingerprint),
    ("entities", .list (schema.entities.map Entity.toJson))]

end CompiledSchema

end EventForge
