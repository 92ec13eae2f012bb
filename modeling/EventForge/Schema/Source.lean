import EventForge.Digest.Sha256
import EventForge.Json.Reader
import EventForge.Schema.Error
import EventForge.Text.Basic
import EventForge.Yaml.Reader

/-!
# Schema sources

A schema source is a mapping from event names to definitions, written in JSON or YAML.  YAML is read by
a library.  A definition has a type label, which is free text, and a mapping from field names to types.
-/

namespace EventForge

/-- Why bytes hold no document. -/
inductive DecodeFault
  | utf8 (error : Utf8DecodeError)
  | json (error : JsonError)
  | yaml (fault : YamlFault)

namespace DecodeFault

def fault : DecodeFault → Fault
  | .utf8 error => Fault.plain .utf8Decoding error.message
  | .json error =>
      match error with
      | .malformed _ _ _ _ => Fault.plain .jsonSyntax error.message
      | .integer _ => Fault.ofValue error.message
      | .depth _ => Fault.plain .nesting error.message
  | .yaml fault => fault.fault

end DecodeFault

/-- An event as declared. -/
structure RawEvent where
  name : Text
  typeLabel : Text
  /-- The declared type of each field. -/
  typeMapping : Fields Document

/-- A schema source of the right shape. -/
structure RawSchema where
  events : List RawEvent
  path : Option Text

namespace RawSchema

/-- The names of the events in order. -/
def eventNames (schema : RawSchema) : List Text :=
  Text.sort (schema.events.map fun event => event.name)

end RawSchema

namespace Source

/-- What reads a text that holds a YAML document. -/
abbrev YamlReader := Text → Except YamlFault Document

/-- Whether a file suffix, in any case, stands for YAML. -/
def isYamlSuffix (suffix : Text) : Bool :=
  suffix.lower = (".yaml" : Text) || suffix.lower = (".yml" : Text)

/-- The document in the bytes of a file with the given suffix. -/
def decode (yaml : YamlReader) (content : Bytes) (suffix : Text) : Except DecodeFault Document := do
  let text ← (Utf8.decode content).mapError .utf8
  if isYamlSuffix suffix then (yaml text).mapError .yaml
  else (JsonText.read text).mapError .json

/-- The fields of a mapping under the texts of its keys. -/
def textKeys (entries : List (Document × Document)) :
    Except Document.DisplayFault (Fields Document) :=
  entries.foldlM (fun fields entry => do
    return Fields.insert (← entry.1.plain?) entry.2 fields) []

/-- The type label of a definition. -/
def labelOf (entries : List (Document × Document)) : Except Document.DisplayFault Text :=
  match Document.lookup? "type" entries with
  | none | some .null => .ok []
  | some label => label.plain?

/-- The declared fields of an event. -/
def declaredFields (event : Text) (entries : List (Document × Document)) :
    Except Malformation (List (Document × Document)) :=
  match (Document.lookup? "type_mapping" entries).map Document.opened with
  | none | some .null => .ok []
  | some (.mapping declared) => .ok declared
  | some _ => .error (.typeMapping event)

/-- One event from its key and definition. -/
def parseEvent (key definition : Document) : Except ShapeFault RawEvent := do
  match key with
  | .text name =>
      match definition.opened with
      | .mapping entries =>
          let declared ← (declaredFields name entries).mapError .malformed
          let typeLabel ← (labelOf entries).mapError .display
          return { name, typeLabel, typeMapping := ← (textKeys declared).mapError .display }
      | _ => throw (.malformed (.definition name))
  | _ => throw (.malformed (.eventName (← key.display?.mapError .display)))

/-- The schema of a document; null is an empty schema. -/
def parse (document : Document) (path : Option Text) : Except ShapeFault RawSchema :=
  match document.opened with
  | .null => .ok { events := [], path }
  | .mapping entries => do
      let events ← entries.mapM fun entry => parseEvent entry.1 entry.2
      return { events, path }
  | _ => .error (.malformed .source)

/-- The digest by which a source is known. -/
def digest (content : Bytes) : Text := Sha256.hexDigest content

end Source

end EventForge
