import EventForge.Document.Basic
import EventForge.Json.Basic

/-!
# Faults

Everything that can go wrong is reported in one form: the kind of fault, a message and, for the
faults of schemas, storage and monitoring, a code with the names that the fault is about.
-/

namespace EventForge

/-- The kinds of faults, by what failed. -/
inductive FaultKind
  | value
  | type
  | overflow
  | key
  | index
  | attribute
  | nesting
  | jsonSyntax
  | yamlSyntax
  | utf8Decoding
  | utf8Encoding
  | malformedSchema
  | unreadableSource
  | unknownType
  | missingTimeField
  | invalidIdentifier
  | duplicateName
  | connection
  | migration
  | storage
  | retrieval
  | monitorReading
  | databaseUse
  | databaseOperation
  | databaseIntegrity
  | missingFile
  | fileExists
  | isDirectory
  | notDirectory
  | fileSystem
  | unloadable
  | missingModule
  | moduleSyntax
  | moduleIndentation
  | notImplemented
  /-- A fault that the script of a module raised, by the name of its kind. -/
  | raised (name : Text)
deriving DecidableEq, Repr, Inhabited

namespace FaultKind

/-- A value that a reader or constructor refuses. -/
def isValue : FaultKind → Bool
  | .value | .jsonSyntax | .utf8Decoding | .utf8Encoding => true
  | _ => false

/-- A module that cannot be found or loaded. -/
def isImport : FaultKind → Bool
  | .unloadable | .missingModule => true
  | _ => false

end FaultKind

/-- How far a fault gets. -/
inductive FaultReach
  /-- What can go on without what failed handles it. -/
  | handled
  /-- No command handles it. -/
  | escaping
  /-- It ends the program wherever it happens. -/
  | final
deriving DecidableEq, Repr, Inhabited

/-- One thing that went wrong. -/
structure Fault where
  kind : FaultKind
  message : Text
  code : Option Text := none
  details : Fields Document := []
  reach : FaultReach := .handled
  /-- The status with which it asks to end the program. -/
  status : Option Document := none
deriving Inhabited

namespace Fault

/-- A fault of one of the kinds that carry no code. -/
def plain (kind : FaultKind) (message : Text) : Fault := { kind, message }

/-- A refused value. -/
def ofValue (message : Text) : Fault := { kind := .value, message }

end Fault

/-- An optional text as a document. -/
def Document.ofText? : Option Text → Document
  | none => .null
  | some value => Document.text value

/-- An optional text as a JSON value. -/
def Json.ofText? : Option Text → Json
  | none => .null
  | some value => Json.text value

end EventForge
