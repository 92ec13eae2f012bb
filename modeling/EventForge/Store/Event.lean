import EventForge.Document.Basic
import EventForge.Fault
import EventForge.Module.Basic
import EventForge.Number.Reading
import EventForge.Random.Generator
import EventForge.Sql.Connection

/-!
# Events

An event is a value for every attribute of its class.  It is stored as one row of the table of its
class, and retrieved by a range of its time.
-/

namespace EventForge

/-!
## Decoding stored values

A value read back from a column becomes a signed integer of the width of its field: a missing value
is zero, and any other is read as an integer and wrapped.
-/

/-- Why a stored value is no integer of a width. -/
inductive CodecFault
  | nonPositiveWidth (width : Int)
  | text (shown : Text) (fault : IntegerFault)
  | notANumber
  | infinite
  /-- A collection, by the name of its kind. -/
  | collection (kind : Text)
  /-- A value that has no bits, by the name of its kind. -/
  | noBits (kind : Text)
  /-- A width of more bits than can be counted. -/
  | endlessWidth
  | rowLength (columns expected : Nat)
deriving DecidableEq, Repr

namespace CodecFault

def message : CodecFault → Text
  | .nonPositiveWidth width => ("width must be > 0, got " : Text) ++ Text.ofInt width
  | .text shown fault => Reading.integerMessage 10 shown fault
  | .notANumber => "cannot convert float NaN to integer"
  | .infinite => "cannot convert float infinity to integer"
  | .collection kind =>
      ("int() argument must be a string, a bytes-like object or a real number, not '" : Text) ++
        kind ++ "'"
  | .noBits kind =>
      ("unsupported operand type(s) for &=: '" : Text) ++ kind ++ "' and 'int'"
  | .endlessWidth => "too many digits in integer"
  | .rowLength columns expected =>
      ("row has " : Text) ++ Text.ofNat columns ++ " columns, expected " ++ Text.ofNat expected

def kind : CodecFault → FaultKind
  | .infinite | .endlessWidth => .overflow
  | .collection _ | .noBits _ => .type
  | _ => .value

def fault (fault : CodecFault) : Fault := Fault.plain fault.kind fault.message

end CodecFault

namespace Codec

/-- The integer of `width` bits with a sign that agrees with `value` in its lowest bits. -/
def wrap (value : Int) (width : Nat) : Int :=
  if Binary64.bitLength value.natAbs < width then value
  else
    let low := value % twoTo width
    if twoTo (width - 1) ≤ low then low - twoTo width else low

/-- Widths from this one on have a power of two whose digits, of thirty bits each, are more than can
be counted. -/
def endlessWidth : Int := (twoTo 61 - 8) * 30 + 1

/-- Wraps a value to a width, which must be positive. -/
def narrow (value width : Int) : Except CodecFault Int :=
  if width ≤ 0 then .error (.nonPositiveWidth width)
  else if endlessWidth ≤ width then .error .endlessWidth
  else .ok (wrap value width.toNat)

/-- Wraps a value that must be an integer or a truth value. -/
def narrowDocument (value : Document) (width : Int) : Except CodecFault Int :=
  match value with
  | .bool value => narrow (if value then 1 else 0) width
  | .integer value => narrow value width
  | other => do
      let _ ← narrow 0 width
      throw (.noBits other.kindName)

/-- The ASCII text of bytes; every other byte becomes a letter that is no digit. -/
def asciiText (bytes : Bytes) : Text :=
  bytes.map fun byte => if byte < 128 then CodePoint.ofNat byte.toNat else 'x'

/-- The integer that a value reads as. -/
def integerOf : Document → Except CodecFault Int
  | .bool value => .ok (if value then 1 else 0)
  | .integer value => .ok value
  | .float value =>
      match Binary64.ofFloat value with
      | .nan => .error .notANumber
      | .infinite _ => .error .infinite
      | .finite negative significand exponent =>
          .ok (Binary64.truncate negative significand exponent)
  | .text value => (Reading.integer 10 value).mapError (CodecFault.text (Quoted.ofText value))
  | .bytes value =>
      (Reading.integer 10 (asciiText value)).mapError (CodecFault.text (Quoted.ofBytes value))
  | other => .error (.collection other.kindName)

/-- Decodes a value that may be missing. -/
def decode (value : Document) (width : Int) : Except CodecFault Int :=
  match value with
  | .null => .ok 0
  | value => do
      let number ← integerOf value
      narrow number width

/-- Decodes the values of a row with the width of each column. -/
def decodeRow (row : List Document) (widths : List Int) : Except CodecFault (List Int) :=
  if row.length ≠ widths.length then .error (.rowLength row.length widths.length)
  else (row.zip widths).mapM fun column => decode column.1 column.2

end Codec

/-!
## Events of a class
-/

structure Event where
  eventClass : EventClass
  /-- The values of the attributes, in order. -/
  values : List Document

/-- An event that could not be stored. -/
structure StorageError where
  table : Text
  message : Text
deriving DecidableEq, Repr

/-- Events that could not be retrieved. -/
structure RetrievalError where
  table : Text
  message : Text
  low : Document
  high : Document

/-- Why a query gives no events: the failure of retrieval, or a number beyond what the program
handles, which is no failure of retrieval. -/
inductive QueryFault
  | retrieval (error : RetrievalError)
  | escaped (fault : Fault)

namespace StorageError

def toFault (error : StorageError) : Fault :=
  { kind := .storage, message := error.message, code := some "STORAGE_ERROR",
    details := [("table", .text error.table)] }

end StorageError

namespace RetrievalError

def toFault (error : RetrievalError) : Fault :=
  { kind := .retrieval, message := error.message, code := some "RETRIEVAL_ERROR",
    details := [("table", .text error.table), ("start", error.low), ("end", error.high)] }

end RetrievalError

namespace QueryFault

def toFault : QueryFault → Fault
  | .retrieval error => error.toFault
  | .escaped fault => fault

end QueryFault

namespace Event

/-- The value of an attribute. -/
def value (event : Event) (name : Text) : Document :=
  (((event.eventClass.attributes.zip event.values).find? fun entry =>
    entry.1.name == name).map (·.2)).getD (.integer 0)

/-- The event with given values for some attributes; the others are zero. -/
def ofFields (eventClass : EventClass) (fields : Fields Document) : Event :=
  { eventClass
    values := eventClass.attributes.map fun found =>
      (fields.get? found.name).getD (.integer 0) }

/-- The event with given values for some attributes, which must be attributes of its class. -/
def ofGiven (eventClass : EventClass) (fields : Fields Document) : Except Fault Event :=
  match fields.find? fun field =>
      !eventClass.attributes.any fun found => found.name = field.1 with
  | some field =>
      .error (Fault.plain .type (eventClass.name ++
        ".__init__() got an unexpected keyword argument " ++ Quoted.ofText field.1))
  | none => .ok (ofFields eventClass fields)

/-- The values under their columns. -/
def toFields (event : Event) : Fields Document :=
  (event.eventClass.columns.zip event.values).foldl
    (fun fields entry => Fields.insert entry.1 entry.2 fields) []

/-- A random value for an attribute. -/
def randomValue (clock : Clock) (found : Attribute) : Generator.Drawing Document := do
  match Generator.ofName? found.generator with
  | some generator => return .integer (← generator.run clock)
  | none => return .integer 0

/-- A random event of a class; its values are drawn in the order of the attributes. -/
def random (eventClass : EventClass) (clock : Clock) : Generator.Drawing Event := do
  return { eventClass, values := ← eventClass.attributes.mapM (randomValue clock) }

/-- The values that storing an event binds. -/
def storedValues (event : Event) : List Document := event.eventClass.stored.map event.value

/-- Stores an event as a row of its table. -/
def store (event : Event) (connection : Connection) : Except StorageError Connection :=
  match connection.execute event.eventClass.insertStatement
      (Connection.bindings event.storedValues) with
  | .ok (_, connection) => .ok connection
  | .error fault =>
      .error
        { table := event.eventClass.table
          message := ("can't store event in " : Text) ++ event.eventClass.table ++ ": " ++
            fault.message }

/-- Decodes the columns of a row, the first of them for the first attribute. -/
def decodeColumns (row : List Document) (index : Nat) :
    List Decoding → Except CodecFault (Fields Document)
  | [] => .ok []
  | decoding :: decodings => do
      let value ← Codec.decode (row.getD index .null) decoding.width
      let others ← decodeColumns row (index + 1) decodings
      return (decoding.name, .integer value) :: others

/-- The event of a row. -/
def ofRow (eventClass : EventClass) (row : List Document) : Except CodecFault Event := do
  let fields ← decodeColumns row 0 eventClass.retrieved
  return ofFields eventClass fields

/-- The failure of a query of a class. -/
def queryFailure (eventClass : EventClass) (low high : Document) (reason : Text) : QueryFault :=
  .retrieval
    { table := eventClass.table
      message := ("can't retrieve events from " : Text) ++ eventClass.table ++ ": " ++ reason
      low, high }

/-- The events of a class whose time lies between two bounds, both included. -/
def retrieve (eventClass : EventClass) (connection : Connection) (low high : Document) :
    Except QueryFault (List Event) :=
  match connection.execute eventClass.selectStatement (Connection.bindings [low, high]) with
  | .error fault =>
      if fault.kind = .overflow then .error (.escaped fault.fault)
      else .error (queryFailure eventClass low high fault.message)
  | .ok (rows, _) =>
      (rows.mapM (ofRow eventClass)).mapError fun fault =>
        if fault.kind = .overflow then .escaped fault.fault
        else queryFailure eventClass low high fault.message

end Event

end EventForge
