import EventForge.Files
import EventForge.Module.Basic
import EventForge.Module.Literal

/-!
# The text of event modules

A module is written line by line: a header, the classes in the order of their tables, and the
registry of constructors with the migration.  The text depends on the declarations only.
-/

namespace EventForge

namespace ModuleText

/-- A tuple of literals; a comma follows the only member of one. -/
def tuple : List Text → Text
  | [item] => ("(" : Text) ++ item ++ ",)"
  | items => ("(" : Text) ++ Text.join ", " items ++ ")"

def ruleLine : Text := ("# " : Text) ++ List.replicate 77 (0x3D : CodePoint)

/-- The lines that open a section. -/
def sectionLines (title : Text) : List Text := [[], [], ruleLine, ("# " : Text) ++ title, ruleLine]

/-- The description of the module and the imports that every module has. -/
def openingLines : List Text := List.map Text.ofString [
  "\"\"\"",
  "Event types generated from a schema source.",
  "",
  "Code generated by eventgen; DO NOT EDIT.",
  "Edit the schema source named by TYPE_MAPPING_SOURCE and run",
  "``eventgen generate`` again instead.",
  "\"\"\"",
  "",
  "from __future__ import annotations",
  "",
  "import random",
  "import sqlite3",
  "from dataclasses import dataclass",
  "",
  "from dbload.eventgen.errors import RetrievalError, StorageError",
  "from dbload.eventgen.runtime.codec import coerce_nullable",
  "from dbload.eventgen.runtime.contract import Event, EventConstructor, bind_positional"]

def generatorsLead : Text := "from dbload.eventgen.runtime.generators import "

def sourceLead : Text := "TYPE_MAPPING_SOURCE = "

def fingerprintLead : Text := "SCHEMA_FINGERPRINT = "

def header (module : EventModule) : List Text :=
  openingLines ++
    (if module.generators.isEmpty then []
      else [generatorsLead ++ Text.join ", " module.generators]) ++
    [("from dbload.eventgen.runtime.storage import auto_migrate" : Text), [],
      "# Schema source this module was generated from, watched at runtime",
      sourceLead ++ (module.source.map Literal.ofText).getD "None", [],
      fingerprintLead ++ Literal.ofText module.fingerprint]

/-- The description of a class behind its table. -/
def labelPart (label : Text) : Text :=
  if label.isEmpty then [] else (" (" : Text) ++ label ++ ")"

/-- The constants of a class. -/
def constantLines (eventClass : EventClass) : List Text :=
  [("    TABLE = " : Text) ++ Literal.ofText eventClass.table,
    ("    TIME_COLUMN = " : Text) ++ Literal.ofText eventClass.timeColumn,
    ("    COLUMNS = " : Text) ++ tuple (eventClass.columns.map Literal.ofText),
    ("    COLUMN_DEFS = " : Text) ++ tuple (eventClass.columnDefinitions.map fun definition =>
      ("(" : Text) ++ Literal.ofText definition.1 ++ ", " ++ Literal.ofText definition.2 ++ ")"),
    ("    WIDTHS = " : Text) ++ tuple (eventClass.widths.map Text.ofNat),
    ("    INSERT_SQL = " : Text) ++ Literal.ofText eventClass.insertStatement,
    ("    SELECT_SQL = " : Text) ++ Literal.ofText eventClass.selectStatement]

/-- The remark and the declaration of each attribute. -/
def attributeLines (eventClass : EventClass) : List Text :=
  eventClass.attributes.flatMap fun found =>
    [("    # " : Text) ++ found.comment, ("    " : Text) ++ found.name ++ ": int = 0"]

def newRandomLines (eventClass : EventClass) : List Text :=
  [("    @classmethod" : Text),
    ("    def new_random(cls, rng: random.Random) -> " : Text) ++ eventClass.name ++ ":",
    ("        \"\"\"Generate a new random " : Text) ++ eventClass.name ++ ".\"\"\"",
    "        return cls("] ++
    (eventClass.attributes.map fun found =>
      ("            " : Text) ++ found.name ++ "=" ++ found.generator ++ "(rng),") ++
    [("        )" : Text)]

def storeEnd : List Text := List.map Text.ofString [
  "        except (sqlite3.Error, OverflowError, TypeError, ValueError) as e:",
  "            raise StorageError(",
  "                f\"can't store event in \x7bself.TABLE\x7d: \x7be\x7d\", table=self.TABLE",
  "            ) from e"]

def storeLines (eventClass : EventClass) : List Text :=
  [("    async def store(self, conn: sqlite3.Connection) -> None:" : Text),
    ("        \"\"\"Insert this event into the " : Text) ++ eventClass.table ++ " table.\"\"\"",
    "        try:",
    "            conn.execute(",
    "                self.INSERT_SQL,",
    ("                bind_positional(" : Text) ++
      Text.join ", " (eventClass.stored.map fun name => ("self." : Text) ++ name) ++ "),",
    "            )"] ++ storeEnd

/-- How each attribute is read from its column. -/
def decodingLines (index : Nat) : List Decoding → List Text
  | [] => []
  | decoding :: decodings =>
      (("                    " : Text) ++ decoding.name ++ "=coerce_nullable(row[" ++
        Text.ofNat index ++ "], " ++ Text.ofNat decoding.width ++ "),") ::
        decodingLines (index + 1) decodings

def retrieveEnd : List Text := List.map Text.ofString [
  "                )",
  "                for row in rows",
  "            ]",
  "        except (sqlite3.Error, TypeError, ValueError) as e:",
  "            raise RetrievalError(",
  "                f\"can't retrieve events from \x7bcls.TABLE\x7d: \x7be\x7d\",",
  "                table=cls.TABLE,",
  "                start=start,",
  "                end=end,",
  "            ) from e"]

def retrieveLines (eventClass : EventClass) : List Text :=
  [("    @classmethod" : Text),
    "    async def retrieve(",
    "        cls, conn: sqlite3.Connection, start: int, end: int",
    ("    ) -> list[" : Text) ++ eventClass.name ++ "]:",
    ("        \"\"\"Query " : Text) ++ eventClass.table ++ " events with " ++
      eventClass.timeColumn ++ " between start and end, inclusive.\"\"\"",
    "        try:",
    "            rows = conn.execute(cls.SELECT_SQL, bind_positional(start, end)).fetchall()",
    "            return [",
    "                cls("] ++
    decodingLines 0 eventClass.retrieved ++ retrieveEnd

/-- The lines of a class. -/
def classLines (eventClass : EventClass) : List Text :=
  [([] : Text), [], "@dataclass", ("class " : Text) ++ eventClass.name ++ "(Event):",
    ("    \"\"\"Event type " : Text) ++ Literal.ofText eventClass.table ++
      labelPart eventClass.label ++ ".\"\"\"", []] ++
    constantLines eventClass ++ [([] : Text)] ++ attributeLines eventClass ++ [([] : Text)] ++
    newRandomLines eventClass ++ [([] : Text)] ++ storeLines eventClass ++ [([] : Text)] ++
    retrieveLines eventClass

def migrationLines : List Text := List.map Text.ofString [
  "",
  "",
  "def migrate(conn: sqlite3.Connection) -> list[str]:",
  "    \"\"\"Create or update the table of every event type.",
  "",
  "    Safe to call repeatedly: a database that already matches the",
  "    event types is left untouched and an empty list is returned.",
  "",
  "    Raises:",
  "        MigrationError: If a table cannot be created or altered",
  "    \"\"\"",
  "    applied: list[str] = []",
  "    for event_type in EVENT_TYPES:",
  "        applied.extend(",
  "            auto_migrate(",
  "                conn, event_type.TABLE, event_type.COLUMN_DEFS, event_type.TIME_COLUMN",
  "            )",
  "        )",
  "    return applied"]

def registryLines (module : EventModule) : List Text :=
  sectionLines "Registry" ++
    [([] : Text), "# Event name -> function generating a random instance of that event type"] ++
    (if module.classes.isEmpty then
      [("RANDOM_GENERATOR_CONSTRUCTORS: dict[str, EventConstructor] = \x7b\x7d" : Text), [],
        "EVENT_TYPES: tuple[type[Event], ...] = ()"]
    else
      [("RANDOM_GENERATOR_CONSTRUCTORS: dict[str, EventConstructor] = \x7b" : Text)] ++
        (module.classes.map fun eventClass =>
          ("    " : Text) ++ Literal.ofText eventClass.table ++ ": " ++ eventClass.name ++
            ".new_random,") ++
        [("\x7d" : Text), [], "EVENT_TYPES: tuple[type[Event], ...] = ("] ++
        (module.classes.map fun eventClass => ("    " : Text) ++ eventClass.name ++ ",") ++
        [(")" : Text)]) ++
    migrationLines

/-- All lines of a module. -/
def lines (module : EventModule) : List Text :=
  header module ++ sectionLines "Event Types" ++ module.classes.flatMap classLines ++
    registryLines module

/-- The text of a module: its lines, each with a line feed behind it. -/
def write (module : EventModule) : Text := Text.join "\n" (lines module) ++ ("\n" : Text)

end ModuleText

/-!
## Writing event modules

A module is written to its file only if the file does not hold its text already.  Line ends of any
form read as line feeds.  The file is emptied before the text is encoded, so that a text without an
encoding leaves an empty file.
-/

/-- Why a module is not written. -/
inductive WriteFault
  | file (fault : FileFault)
  | decoding (error : Utf8DecodeError)
  | encoding (error : Utf8EncodeError)
deriving DecidableEq, Repr

namespace WriteFault

def fault : WriteFault → Fault
  | .file fault => fault.fault
  | .decoding error => Fault.plain .utf8Decoding error.message
  | .encoding error => Fault.plain .utf8Encoding error.message

end WriteFault

namespace ModuleFile

/-- A text with every line end as a line feed: a carriage return, with or without a line feed behind
it, is one. -/
def universalLines : Text → Text
  | [] => []
  | point :: rest =>
      if point.val = 0x0D then
        if rest.head? = some CodePoint.lineFeed then universalLines rest
        else CodePoint.lineFeed :: universalLines rest
      else point :: universalLines rest

/-- The text of a file with every line end as a line feed. -/
def readText (tree : FileTree) (path : Text) : Except WriteFault Text := do
  let content ← (tree.read path).mapError WriteFault.file
  let text ← (Utf8.decode content).mapError WriteFault.decoding
  return universalLines text

/-- Whether a file holds a text already. -/
def holds (tree : FileTree) (path code : Text) : Except WriteFault Bool :=
  match tree.isThere path with
  | .error fault => .error (.file fault)
  | .ok false => .ok false
  | .ok true => (readText tree path).map fun text => text == code

/-- Puts a text into a file, which is emptied first.  The directories that were made for a file that
cannot be written stay. -/
def replace (tree : FileTree) (path code : Text) : Except WriteFault Unit × FileTree :=
  match tree.put path [] with
  | .error fault => (.error (.file fault), (tree.makeParents path).2)
  | .ok emptied =>
      match Utf8.encode code with
      | .error error => (.error (.encoding error), emptied)
      | .ok content =>
          match tree.put path content with
          | .error fault => (.error (.file fault), emptied)
          | .ok written => (.ok (), written)

/-- Writes a text to a file unless the file holds it.  The answer says whether the file was
written. -/
def update (tree : FileTree) (path code : Text) : Except WriteFault Bool × FileTree :=
  match holds tree path code with
  | .error fault => (.error fault, tree)
  | .ok true => (.ok false, tree)
  | .ok false =>
      match replace tree path code with
      | (.error fault, tree) => (.error fault, tree)
      | (.ok (), tree) => (.ok true, tree)

/-- Writes the module of a compiled schema. -/
def write (tree : FileTree) (path : Text) (schema : CompiledSchema) :
    Except WriteFault Bool × FileTree :=
  update tree (FilePath.normal path) (ModuleText.write (EventModule.ofCompiled schema))

end ModuleFile

end EventForge
