import EventForge.Files
import EventForge.Sql.Connection

/-!
# Files and databases

A workspace has files and databases.  A database is kept in a file, in a directory that must exist,
or is private to the program that opened it.  A file that holds something else can be opened, but no
statement can be executed on it.
-/

namespace EventForge

/-- Where a database is kept: under the names that lead to its file, or nowhere. -/
abbrev DatabasePlace := Option Place

structure Workspace where
  files : FileTree
  databases : List (DatabasePlace × Database) := []

namespace Workspace

/-- The reason why a database cannot be opened. -/
def unopened : Text := "unable to open database file"

/-- The database at a place; one that is not there yet is empty. -/
def database (workspace : Workspace) (place : DatabasePlace) : Database :=
  ((workspace.databases.find? fun found => found.1 == place).map (·.2)).getD Database.empty

/-- Whether there is a database at a place. -/
def hasDatabase (workspace : Workspace) (place : DatabasePlace) : Bool :=
  workspace.databases.any fun found => found.1 == place

/-- Whether the file at a place holds something else than a database.  A file of one byte or none
counts as an empty database. -/
def isForeign (workspace : Workspace) (place : DatabasePlace) : Bool :=
  match place.bind workspace.files.entry? with
  | some (.file content) => 1 < content.length && !workspace.hasDatabase place
  | _ => false

/-- Keeps a database at a place. -/
def keep (workspace : Workspace) (place : DatabasePlace) (database : Database) : Workspace :=
  if workspace.isForeign place then workspace
  else
    { workspace with
      databases :=
        workspace.databases.filter (fun found => found.1 != place) ++ [(place, database)] }

/-- Goes from a place to where a name leads.  A name may lead through what is not there, but not
through a file. -/
def follow? (workspace : Workspace) (place : Place) (name : Text) : Option Place :=
  let next := FilePath.follow place name
  if name = FilePath.above then some next
  else
    match workspace.files.entry? place with
    | some (.file _) => none
    | _ => if FilePath.longestName < FilePath.byteLength name then none else some next

/-- The place of the database at a path, if it can be there: the empty path and `:memory:` are
private, any other path must lead to a file in an existing directory. -/
def place? (workspace : Workspace) (path : Text) : Option DatabasePlace :=
  if path.isEmpty || path = (":memory:" : Text) then some none
  else do
    let (start, names) := workspace.files.start path
    let place ← names.foldlM workspace.follow? start
    match workspace.files.entry? place.dropLast, workspace.files.entry? place with
    | some .directory, some .directory => none
    | some .directory, _ => some (some place)
    | _, _ => none

/-- Opens the database at a path: its place, and the workspace in which it exists. -/
def openDatabase (workspace : Workspace) (path : Text) :
    Except Text (DatabasePlace × Workspace) :=
  match workspace.place? path with
  | none => .error unopened
  | some none => .ok (none, workspace.keep none Database.empty)
  | some place => .ok (place, workspace.keep place (workspace.database place))

/-- A connection to the database at a place. -/
def connection (workspace : Workspace) (place : DatabasePlace) : Connection :=
  { database := workspace.database place, foreign := workspace.isForeign place }

/-- Executes a statement on the database at a path; a refusal changes nothing. -/
def execute (workspace : Workspace) (path statement : Text) : Workspace :=
  match workspace.openDatabase path with
  | .error _ => workspace
  | .ok (place, workspace) =>
      match (workspace.connection place).execute statement [] with
      | .error _ => workspace
      | .ok (_, connection) => workspace.keep place connection.database

end Workspace

end EventForge
