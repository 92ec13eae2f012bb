import EventForge.Schema.Entity
import EventForge.Text.Basic

/-!
# Event modules

An event module declares one class per entity: the constants that describe its table, its
attributes, and how it makes, stores and retrieves events.  It also names the schema source and the
fingerprint of the schema that it was made from.
-/

namespace EventForge

/-- An attribute of an event class. -/
structure Attribute where
  name : Text
  /-- The remark above the attribute. -/
  comment : Text
  /-- The generator that makes values for it. -/
  generator : Text
deriving DecidableEq, Repr, Inhabited

/-- An attribute that is read back from a column, and its width in bits. -/
structure Decoding where
  name : Text
  width : Nat
deriving DecidableEq, Repr, Inhabited

/-- The declaration of one event type. -/
structure EventClass where
  name : Text
  /-- The type label as it stands in the description of the class. -/
  label : Text
  table : Text
  timeColumn : Text
  /-- The columns that are stored. -/
  columns : List Text
  /-- All columns with their types. -/
  columnDefinitions : List (Text × Text)
  /-- The widths of the stored columns. -/
  widths : List Nat
  insertStatement : Text
  selectStatement : Text
  attributes : List Attribute
  /-- The attributes that storing binds, in the order of the placeholders. -/
  stored : List Text
  /-- The attributes that retrieving fills, in the order of the columns. -/
  retrieved : List Decoding
deriving DecidableEq, Repr, Inhabited

structure EventModule where
  /-- The schema source that is watched while the module runs. -/
  source : Option Text
  fingerprint : Text
  /-- The generators that the classes use. -/
  generators : List Text
  classes : List EventClass
deriving DecidableEq, Repr, Inhabited

namespace EventClass

/-- A free text on one line without quotes and backslashes: blanks become single spaces. -/
def safeLabel (label : Text) : Text :=
  Text.join " " ((label.replacePoint '\\' '/').replacePoint '"' '\'').words

/-- The class of an entity. -/
def ofEntity (entity : Entity) : EventClass :=
  { name := entity.className
    label := safeLabel entity.typeLabel
    table := entity.declaredName
    timeColumn := entity.timeColumn
    columns := entity.stored.map fun field => field.declaredName
    columnDefinitions := entity.columnDefinitions
    widths := entity.stored.map Field.width
    insertStatement := entity.insertStatement
    selectStatement := entity.selectStatement
    attributes := entity.fields.map fun field =>
      { name := field.name, comment := field.comment, generator := field.generator }
    stored := entity.stored.map fun field => field.name
    retrieved := entity.stored.map fun field => { name := field.name, width := field.width } }

end EventClass

namespace EventModule

/-- Texts without repetition, in order. -/
def distinctSorted (texts : List Text) : List Text := Text.sort texts.eraseDups

/-- The module of a compiled schema. -/
def ofCompiled (schema : CompiledSchema) : EventModule :=
  { source := schema.sourcePath
    fingerprint := schema.fingerprint
    generators := distinctSorted
      (schema.entities.flatMap fun entity => entity.fields.map fun field => field.generator)
    classes := schema.entities.map EventClass.ofEntity }

/-- The events that the module can make, by name. -/
def constructors (module : EventModule) : List (Text × EventClass) :=
  module.classes.map fun eventClass => (eventClass.table, eventClass)

end EventModule

end EventForge
