import EventForge.Schema.Entity
import EventForge.Schema.Identifier
import EventForge.Schema.Source

/-!
# Validation

Every event and field name must be usable in statements, every field type registered, and every
event needs a field named `time`.  Within an event no two fields may share an attribute or a column,
and no two events may share a class or a table; columns and tables ignore case.  Events and fields
are visited in the order of their names, so that a source always has the same first error.  An
unregistered type that cannot be shown ends the visit.
-/

namespace EventForge

/-- The field that range queries select. -/
def timeName : Text := "time"

namespace Validation

/-- What the fields visited so far occupy: attributes and columns, each with the field that has it.
-/
structure Taken where
  attributes : Fields Text
  columns : Fields Text

/-- Before any field is visited only the column of the creation time is occupied. -/
def Taken.initial : Taken :=
  { attributes := [], columns := [(Entity.creationColumn, Entity.creationColumn)] }

/-- The error of a type that is not registered. -/
def typeErrors (event name : Text) (type : Document) :
    Except Document.DisplayFault (List SchemaError) := do
  if ScalarType.isRegistered type then return []
  return [.unknownType event name (← type.plain?)]

/-- The errors of the attribute and column of a field, and what is occupied after it. -/
def placeErrors (event : Text) (taken : Taken) (name : Text) : List SchemaError × Taken :=
  if name = Entity.creationColumn then ([.duplicate event .creationTime (some name)], taken)
  else
    let own := Identifier.attributeName name
    let occupied : Option Text :=
      match taken.attributes.get? own with
      | some other => some other
      | none => if own = Entity.creationColumn then some Entity.creationColumn else none
    match occupied with
    | some other => ([.duplicate event (.attributeName other own) (some name)], taken)
    | none =>
        let attributes := Fields.insert own name taken.attributes
        let column := name.fold
        match taken.columns.get? column with
        | some other =>
            ([.duplicate event (.column other column) (some name)], { taken with attributes })
        | none => ([], { attributes, columns := Fields.insert column name taken.columns })

/-- The errors of one field of an event, and what is occupied after it. -/
def fieldErrors (event : Text) (taken : Taken) (name : Text) (type : Document) :
    Except Document.DisplayFault (List SchemaError × Taken) := do
  if !Identifier.isUsable name then return ([.invalidIdentifier event (some name)], taken)
  let typed ← typeErrors event name type
  let (placed, taken) := placeErrors event taken name
  return (typed ++ placed, taken)

/-- The errors of fields in the given order. -/
def fieldsErrors (event : Text) :
    Taken → Fields Document → Except Document.DisplayFault (List SchemaError)
  | _, [] => .ok []
  | taken, (name, type) :: fields => do
      let (errors, taken) ← fieldErrors event taken name type
      return errors ++ (← fieldsErrors event taken fields)

/-- Fields in the order of their names. -/
def sortFields (fields : Fields Document) : Fields Document :=
  fields.mergeSort fun first second => Text.le first.1 second.1

/-- The errors of an event on its own. -/
def eventErrors (event : RawEvent) : Except Document.DisplayFault (List SchemaError) := do
  let fields ← fieldsErrors event.name Taken.initial (sortFields event.typeMapping)
  return (if Identifier.isUsable event.name then [] else [.invalidIdentifier event.name none]) ++
    fields ++ (if (event.typeMapping.get? timeName).isSome then [] else [.missingTime event.name])

/-- What the events visited so far occupy: classes and tables, each with the event that has it. -/
structure Named where
  classes : Fields Text
  tables : Fields Text

/-- Occupies a name unless it is occupied already. -/
def occupy (name owner : Text) (names : Fields Text) : Fields Text :=
  match names.get? name with
  | some _ => names
  | none => names ++ [(name, owner)]

/-- The error of an event that shares a class or a table with one visited before. -/
def sharingErrors (named : Named) (event : Text) : List SchemaError :=
  let className := Identifier.camelCase event
  let table := event.fold
  match named.classes.get? className, named.tables.get? table with
  | some other, _ => [.duplicate event (.className other className) none]
  | none, some other => [.duplicate event (.table other table) none]
  | none, none => []

/-- The errors of events in the given order. -/
def eventsErrors : Named → List RawEvent → Except Document.DisplayFault (List SchemaError)
  | _, [] => .ok []
  | named, event :: events => do
      let own ← eventErrors event
      let others ← eventsErrors
        { classes := occupy (Identifier.camelCase event.name) event.name named.classes
          tables := occupy event.name.fold event.name named.tables } events
      return own ++ sharingErrors named event.name ++ others

/-- Events in the order of their names. -/
def sortEvents (events : List RawEvent) : List RawEvent :=
  events.mergeSort fun first second => Text.le first.name second.name

/-- Every error of a schema. -/
def errors (schema : RawSchema) : Except Document.DisplayFault (List SchemaError) :=
  eventsErrors { classes := [], tables := [] } (sortEvents schema.events)

end Validation

/-- A schema without errors. -/
structure ValidatedSchema where
  raw : RawSchema
  valid : Validation.errors raw = .ok []

namespace ValidatedSchema

/-- The events in the order of their names. -/
def events (schema : ValidatedSchema) : List RawEvent := Validation.sortEvents schema.raw.events

def path (schema : ValidatedSchema) : Option Text := schema.raw.path

end ValidatedSchema

/-- Why a schema is not accepted. -/
inductive InvalidSchema
  | schema (error : SchemaError)
  | display (fault : Document.DisplayFault)
deriving DecidableEq, Repr

def InvalidSchema.fault : InvalidSchema → Fault
  | .schema error => error.fault
  | .display fault => Fault.ofDisplay fault

namespace Validation

/-- Accepts a schema, or refuses it with its first error. -/
def validate (schema : RawSchema) : Except InvalidSchema ValidatedSchema :=
  match found : errors schema with
  | .ok [] => .ok { raw := schema, valid := found }
  | .ok (error :: _) => .error (.schema error)
  | .error fault => .error (.display fault)

end Validation

end EventForge
