import EventForge.Document.Basic
import EventForge.Fault

/-!
# Scalar types and errors

What can be the type of a field, and what can be wrong with a schema.
-/

namespace EventForge

/-!
## Scalar types

A field is an integer, a timestamp or a big integer.  The type fixes how wide the stored number is
and which generator makes values for it.
-/

inductive ScalarType
  | integer
  | timestamp
  | bigint
deriving DecidableEq, Repr, Inhabited

namespace ScalarType

def all : List ScalarType := [.integer, .timestamp, .bigint]

/-- The word for a type in a schema source. -/
def label : ScalarType → Text
  | .integer => "int"
  | .timestamp => "timestamp"
  | .bigint => "bigint"

/-- The name of a type in listings. -/
def name : ScalarType → Text
  | .integer => "INTEGER"
  | .timestamp => "TIMESTAMP"
  | .bigint => "BIGINT"

/-- The width of the stored signed integer in bits. -/
def width : ScalarType → Nat
  | .integer => 32
  | .timestamp | .bigint => 64

/-- The type of the column in the database. -/
def columnType : ScalarType → Text
  | .integer => "INTEGER"
  | .timestamp | .bigint => "BIGINT"

/-- The type of the attribute in a module. -/
def attributeType : ScalarType → Text := fun _ => "int"

/-- The type of a stored value, which may be missing. -/
def optionalType : ScalarType → Text := fun _ => "int | None"

/-- The generator of values for a field of this type. -/
def generator : ScalarType → Text
  | .integer => "random_int_value"
  | .timestamp | .bigint => "random_int64_value"

/-- What a missing value reads as. -/
def zero : ScalarType → Int := fun _ => 0

/-- The type with a label. -/
def ofText? (label : Text) : Option ScalarType := all.find? fun type => type.label == label

/-- The type that a value of a schema source names. -/
def ofDocument? : Document → Option ScalarType
  | .text label => ofText? label
  | _ => none

def isRegistered (value : Document) : Bool := (ofDocument? value).isSome

end ScalarType

/-!
## Errors of schemas

A schema source is refused because it cannot be read, has the wrong shape, or breaks one of the
rules of validation.  Building an entity by hand can fail too, with a fault of the model.
-/

/-- What a declared name collides with. -/
inductive Collision
  /-- The field of the creation time is not to be declared. -/
  | creationTime
  /-- Another field has the same attribute. -/
  | attributeName (other attributeName : Text)
  /-- Another field has the same column. -/
  | column (other column : Text)
  /-- Another event has the same class. -/
  | className (other className : Text)
  /-- Another event has the same table. -/
  | table (other table : Text)
deriving DecidableEq, Repr

/-- How the shape of a schema source is wrong. -/
inductive Malformation
  | source
  | eventName (shown : Text)
  | definition (name : Text)
  | typeMapping (event : Text)
deriving DecidableEq, Repr

/-- Why a schema source cannot be compiled. -/
inductive SchemaError
  | unreadable (path reason : Text)
  | undecodable (path reason : Text)
  | malformed (malformation : Malformation)
  | unknownType (event field typeName : Text)
  | missingTime (event : Text)
  | invalidIdentifier (event : Text) (field : Option Text)
  | duplicate (event : Text) (collision : Collision) (field : Option Text)
deriving DecidableEq, Repr

namespace Collision

def message : Collision → Text
  | .creationTime => "'created_at' is added by the compiler"
  | .attributeName other name =>
      ("collides with '" : Text) ++ other ++ "' as '" ++ name ++ "'"
  | .column other name => ("collides with '" : Text) ++ other ++ "' as column '" ++ name ++ "'"
  | .className other name => ("collides with '" : Text) ++ other ++ "' as '" ++ name ++ "'"
  | .table other name => ("collides with '" : Text) ++ other ++ "' as table '" ++ name ++ "'"

end Collision

namespace Malformation

def message : Malformation → Text
  | .source => "schema source must be a mapping of event name to definition"
  | .eventName shown => ("event name must be a string, got " : Text) ++ shown
  | .definition name =>
      ("event '" : Text) ++ name ++ "' must be a mapping with 'type' and 'type_mapping'"
  | .typeMapping event => ("event '" : Text) ++ event ++ "': 'type_mapping' must be a mapping"

/-- The event that has the wrong shape, if it has a name. -/
def event? : Malformation → Option Text
  | .source | .eventName _ => none
  | .definition name => some name
  | .typeMapping event => some event

end Malformation

namespace SchemaError

/-- An event, or a field of one. -/
def place (event : Text) : Option Text → Text
  | none => event
  | some field => event ++ "." ++ field

def message : SchemaError → Text
  | .unreadable path reason => ("can't read schema source " : Text) ++ path ++ ": " ++ reason
  | .undecodable path reason => ("can't parse schema source " : Text) ++ path ++ ": " ++ reason
  | .malformed malformation => malformation.message
  | .unknownType event field typeName =>
      ("error validating " : Text) ++ event ++ "." ++ field ++ ": unknown type '" ++ typeName ++ "'"
  | .missingTime event => ("error validating " : Text) ++ event ++ ": no time field"
  | .invalidIdentifier event field =>
      ("error validating " : Text) ++ place event field ++ ": '" ++ field.getD event ++
        "' is not a valid identifier"
  | .duplicate event collision field =>
      ("error validating " : Text) ++ place event field ++ ": " ++ collision.message

def kind : SchemaError → FaultKind
  | .unreadable _ _ | .undecodable _ _ => .unreadableSource
  | .malformed _ => .malformedSchema
  | .unknownType _ _ _ => .unknownType
  | .missingTime _ => .missingTimeField
  | .invalidIdentifier _ _ => .invalidIdentifier
  | .duplicate _ _ _ => .duplicateName

def code : SchemaError → Text
  | .unreadable _ _ | .undecodable _ _ => "SCHEMA_SOURCE_ERROR"
  | .malformed _ => "MALFORMED_SCHEMA"
  | .unknownType _ _ _ => "UNKNOWN_TYPE"
  | .missingTime _ => "MISSING_TIME_FIELD"
  | .invalidIdentifier _ _ => "INVALID_IDENTIFIER"
  | .duplicate _ _ _ => "DUPLICATE_NAME"

/-- The event that an error is about. -/
def event? : SchemaError → Option Text
  | .unreadable _ _ | .undecodable _ _ => none
  | .malformed malformation => malformation.event?
  | .unknownType event _ _ | .missingTime event | .invalidIdentifier event _
  | .duplicate event _ _ => some event

/-- The field that an error is about. -/
def field? : SchemaError → Option Text
  | .unknownType _ field _ => some field
  | .invalidIdentifier _ field | .duplicate _ _ field => field
  | _ => none

/-- The file that an error is about. -/
def path? : SchemaError → Option Text
  | .unreadable path _ | .undecodable path _ => some path
  | _ => none

def fault (error : SchemaError) : Fault :=
  { kind := error.kind
    message := error.message
    code := some error.code
    details :=
      (("event" : Text), Document.ofText? error.event?) ::
        (("field" : Text), Document.ofText? error.field?) ::
        (error.path?.map fun path => (("path" : Text), Document.text path)).toList }

end SchemaError

/-- Why an event or schema is not read: its shape is wrong, or it holds what cannot be shown. -/
inductive ShapeFault
  | malformed (malformation : Malformation)
  | display (fault : Document.DisplayFault)
deriving DecidableEq, Repr

/-- The fault of a value that cannot be shown. -/
def Fault.ofDisplay (_ : Document.DisplayFault) : Fault :=
  Fault.ofValue Document.DisplayFault.message

def ShapeFault.fault : ShapeFault → Fault
  | .malformed malformation => (SchemaError.malformed malformation).fault
  | .display fault => Fault.ofDisplay fault

/-- Why parts do not make a field, an entity or a compiled schema. -/
inductive ModelFault
  | unknownLabel (shown : Text)
  | emptyFieldName
  | negativePosition (position : Int)
  | noTimeField (entity : Text)
  | manyTimeFields (entity : Text)
  | noCreationTime (entity : Text)
  | fragmentCounts (entity : Text) (placeholders columns insertable : Nat)
  | misaligned (entity : Text) (position : Nat)
  | unsortedEntities
deriving DecidableEq, Repr

namespace ModelFault

def message : ModelFault → Text
  | .unknownLabel shown =>
      ("Invalid scalar type '" : Text) ++ shown ++ "'. Valid types: " ++
        Text.bracketed (ScalarType.all.map fun type => Quoted.ofText type.label)
  | .emptyFieldName => "Field name cannot be empty"
  | .negativePosition position => ("position must be >= 0, got " : Text) ++ Text.ofInt position
  | .noTimeField entity => (SchemaError.missingTime entity).message
  | .manyTimeFields entity => ("Entity '" : Text) ++ entity ++ "' has more than one time field"
  | .noCreationTime entity =>
      ("Entity '" : Text) ++ entity ++ "' must end with a timestamp created_at"
  | .fragmentCounts entity placeholders columns insertable =>
      ("Entity '" : Text) ++ entity ++ "': " ++ Text.ofNat placeholders ++ " placeholders, " ++
        Text.ofNat columns ++ " columns, " ++ Text.ofNat insertable ++ " insertable fields"
  | .misaligned entity position =>
      ("Entity '" : Text) ++ entity ++ "': position " ++ Text.ofNat position ++ " is not aligned"
  | .unsortedEntities => "Entities must be sorted by original name"

def fault : ModelFault → Fault
  | .noTimeField entity => (SchemaError.missingTime entity).fault
  | other => Fault.ofValue other.message

end ModelFault

end EventForge
