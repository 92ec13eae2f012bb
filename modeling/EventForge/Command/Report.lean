import EventForge.Command.Option
import EventForge.Load.Scripted
import EventForge.Load.Supervisor
import EventForge.Load.Workload
import EventForge.Module.Import
import EventForge.Schema.Loading

/-!
# What commands do

A command works on a workspace and answers with an exit status, the texts that it prints, its log
and the workspace as it leaves it.  Entries below the level of the log are left out.
-/

namespace EventForge

/-!
## Commands

The program builds event modules from schema sources, checks and shows schemas, and runs load.  Its
first argument that is no option names the command; all behind it belongs to the command.
-/

inductive Command
  /-- A command without an output cannot be performed. -/
  | generate (schema output : Option Text)
  | validate (schema : Option Text)
  | inspect (schema : Option Text)
  | run (mode : RunMode) (events : Option Text)
deriving DecidableEq, Repr

/-- What a command line asks for. -/
inductive CommandLine
  | help
  | command (command : Command)
deriving DecidableEq, Repr

/-- A command line that cannot be read, and the program or command that refuses it. -/
structure UsageError where
  program : Text
  fault : UsageFault
deriving DecidableEq, Repr

def UsageError.message (error : UsageError) : Text :=
  error.program ++ ": error: " ++ error.fault.message

namespace CommandLine

def program : Text := "eventgen"

/-- The kinds of commands. -/
inductive Kind
  | generate
  | validate
  | inspect
  | run (mode : RunMode)
deriving DecidableEq, Repr

namespace Kind

def all : List Kind := [.generate, .validate, .inspect] ++ RunMode.all.map .run

def name : Kind → Text
  | .generate => "generate"
  | .validate => "validate"
  | .inspect => "inspect"
  | .run mode => mode.name

def ofName? (name : Text) : Option Kind := all.find? fun kind => kind.name == name

end Kind

def schemaOption : OptionSpec := { names := ["--schema", "-s"] }

def outputOption : OptionSpec := { names := ["--output", "-o"] }

def eventsOption : OptionSpec := { names := ["--events", "-e"] }

/-- The file that modules are written to unless another is given. -/
def defaultOutput : Text := "events.py"

/-- The options of a command. -/
def options : Kind → List OptionSpec
  | .generate => [.help, schemaOption, outputOption]
  | .validate | .inspect => [.help, schemaOption]
  | .run _ => [.help, eventsOption]

/-- The command of a kind with the values of its options. -/
def commandOf (given : List (Text × Option Text)) : Kind → Command
  | .generate =>
      .generate (OptionsRead.last? given schemaOption).join
        ((OptionsRead.last? given outputOption).getD (some defaultOutput))
  | .validate => .validate (OptionsRead.last? given schemaOption).join
  | .inspect => .inspect (OptionsRead.last? given schemaOption).join
  | .run mode => .run mode (OptionsRead.last? given eventsOption).join

/-- Reads the arguments of a command.  `extra` holds the arguments in front of it that nothing is
known about. -/
def ofKind (kind : Kind) (extra arguments : List Text) : Except UsageError CommandLine :=
  match OptionsRead.ofArguments (options kind) arguments with
  | .error fault => .error { program := program ++ " " ++ kind.name, fault }
  | .ok .help => .ok .help
  | .ok (.values given more) =>
      if (extra ++ more).isEmpty then .ok (.command (commandOf given kind))
      else .error { program, fault := .unrecognized (extra ++ more) }

/-- Reads a name of a command and its arguments. -/
def ofNamed (extra : List Text) (name : Text) (arguments : List Text) :
    Except UsageError CommandLine :=
  match Kind.ofName? name with
  | some kind => ofKind kind extra arguments
  | none => .error { program, fault := .invalidCommand name (Kind.all.map Kind.name) }

/-- Reads arguments up to the name of the command. -/
def read (extra : List Text) : List (Text × ArgumentForm) → Except UsageError CommandLine
  | [] => .error { program, fault := .missingCommand }
  | (argument, form) :: rest =>
      match form with
      | .option spec attached =>
          match OptionsRead.checkFlag [.help] rest spec attached with
          | .ok _ => .ok .help
          | .error fault => .error { program, fault }
      | .unknown => read (extra ++ [argument]) rest
      | .plain => ofNamed extra argument (rest.map (·.1))
      | .separator =>
          if rest.isEmpty then .error { program, fault := .missingCommand }
          else ofNamed extra argument (rest.map (·.1))

/-- Reads a command line. -/
def ofArguments (arguments : List Text) : Except UsageError CommandLine :=
  match ArgumentForm.ofArguments [.help] arguments with
  | .error fault => .error { program, fault }
  | .ok forms => read [] forms

end CommandLine

/-!
## Performing commands
-/

/-- The libraries that commands use. -/
structure Libraries where
  yaml : Source.YamlReader
  settings : SettingsLibrary

/-- The libraries of the program. -/
def Libraries.standard : Libraries := { yaml := Yaml.read, settings := Settings.library }

/-- What a command is started with. -/
structure Invocation where
  libraries : Libraries
  environment : List (Text × Text)
  /-- What the clock reads while the command runs. -/
  clock : Instant → Clock
  /-- What happens from outside while load runs. -/
  actions : List ScheduledAction
  /-- How long load runs at most. -/
  limit : Instant

/-- What became of a command. -/
structure CommandReport where
  /-- The exit status, or a failure that the command does not handle.  A script can give anything as
  the status. -/
  exit : Except Fault Document
  output : Text := []
  errors : Text := []
  log : List LogEntry := []
  workspace : Workspace

namespace CommandReport

/-- The end of a command with an exit status. -/
def ended (workspace : Workspace) (status : Nat) : CommandReport :=
  { exit := .ok (.integer status), workspace }

/-- The end of a command with a text on the error output. -/
def refusal (workspace : Workspace) (status : Nat) (text : Text) : CommandReport :=
  { ended workspace status with errors := text ++ "\n" }

/-- The end of a command by a failure that it does not handle.  A failure can ask to end the program
with a status. -/
def failure (workspace : Workspace) (fault : Fault) : CommandReport :=
  { exit := (fault.status.map Except.ok).getD (.error fault), workspace }

/-- A report with entries in front of its log. -/
def logged (entries : List LogEntry) (report : CommandReport) : CommandReport :=
  { report with log := entries ++ report.log }

/-- A report without the entries below a level. -/
def atLevel (level : LogLevel) (report : CommandReport) : CommandReport :=
  { report with log := report.log.filter fun entry => level.number ≤ entry.level.number }

end CommandReport

namespace Command

/-- The text for refused settings. -/
def refusedSettings (problems : Nat) : Text :=
  ("Configuration error: " : Text) ++ Text.ofNat problems ++
    (if problems = 1 then (" validation error" : Text) else " validation errors") ++ " for Settings"

/-- Does what needs settings; its log is kept at the level that they set. -/
def withSettings (invocation : Invocation) (workspace : Workspace)
    (work : Settings → CommandReport) : CommandReport :=
  match invocation.libraries.settings.make
      { arguments := [], environment := invocation.environment } with
  | .error .tooLarge => CommandReport.failure workspace DurationFault.tooLarge.fault
  | .error (.invalid problems) =>
      CommandReport.refusal workspace 1 (refusedSettings problems.length)
  | .ok settings => (work settings).atLevel settings.level

/-- A text that is there and not empty. -/
def nonempty? (text : Option Text) : Option Text := text.filter fun text => !text.isEmpty

/-- The variable that names the schema source. -/
def schemaVariable : Text := "TYPE_MAPPING_PATH"

/-- The schema source of a command: the one that is given, or that of the environment. -/
def schemaPath? (invocation : Invocation) (given : Option Text) : Option Text :=
  nonempty? given <|>
    nonempty? ((invocation.environment.find? fun entry => entry.1 == schemaVariable).map (·.2))

/-- Does what needs a schema source. -/
def withSchema (invocation : Invocation) (workspace : Workspace) (given : Option Text)
    (work : Text → CommandReport) : CommandReport :=
  match schemaPath? invocation given with
  | some path => work path
  | none =>
      CommandReport.refusal workspace 1
        "No schema source: pass --schema or set TYPE_MAPPING_PATH"

/-- Compiles a schema source: the entries of the log, and the compiled schema. -/
def compile (invocation : Invocation) (workspace : Workspace) (path : Text) :
    List LogEntry × Except LoadError CompiledSchema :=
  match Source.load invocation.libraries.yaml workspace.files path with
  | .error error => ([], .error error)
  | .ok raw =>
      match Compilation.compileRaw raw none with
      | .error fault =>
          (match Validation.errors raw with
            | .ok [] | .error _ => []
            | .ok errors =>
                [{ time := 0, level := .debug
                   message := ("Schema validation failed with " : Text) ++
                    Text.ofNat errors.length ++ " error(s)" }],
            .error (LoadError.ofCompiling fault))
      | .ok schema =>
          ([LogEntry.info 0 (("Compiled " : Text) ++ Text.ofNat schema.entities.length ++
            " event types, fingerprint=" ++ schema.fingerprint)], .ok schema)

/-- Does what needs a compiled schema. -/
def withCompiled (invocation : Invocation) (workspace : Workspace) (path : Text)
    (work : CompiledSchema → CommandReport) : CommandReport :=
  match compile invocation workspace path with
  | (entries, .ok schema) => (work schema).logged entries
  | (entries, .error (.schema error)) =>
      (CommandReport.refusal workspace 1
        (("can't parse type mappings: " : Text) ++ error.message)).logged entries
  | (entries, .error error) => (CommandReport.failure workspace error.fault).logged entries

/-- The failure to write a module without a path. -/
def outputFault : Fault :=
  Fault.plain .type "expected str, bytes or os.PathLike object, not list"

/-- Writes the module of a schema. -/
def writeModule (workspace : Workspace) (output : Text) (schema : CompiledSchema) : CommandReport :=
  let path := FilePath.normal output
  match ModuleFile.write workspace.files output schema with
  | (.error fault, files) => CommandReport.failure { workspace with files } fault.fault
  | (.ok true, files) =>
      (CommandReport.refusal { workspace with files } 0 (output ++ " written")).logged
        [LogEntry.info 0 (("Wrote " : Text) ++ Text.ofNat schema.entities.length ++
          " event types to " ++ path)]
  | (.ok false, files) =>
      (CommandReport.refusal { workspace with files } 0 (output ++ " unchanged")).logged
        [LogEntry.info 0 (("Generated module " : Text) ++ path ++ " is up to date")]

/-- Prints whether a schema is valid, or its errors. -/
def validation (workspace : Workspace) (errors : List SchemaError) : CommandReport :=
  if errors.isEmpty then
    { CommandReport.ended workspace 0 with output := "Schema is valid\n" }
  else
    { CommandReport.ended workspace 1 with
      output :=
        ("Schema validation failed with " : Text) ++ Text.ofNat errors.length ++ " error(s):\n" ++
          (errors.flatMap fun error => ("  - " : Text) ++ error.message ++ ("\n" : Text)) }

/-- Checks a schema source. -/
def checkSchema (invocation : Invocation) (workspace : Workspace) (path : Text) : CommandReport :=
  match Source.load invocation.libraries.yaml workspace.files path with
  | .ok raw =>
      match Validation.errors raw with
      | .ok errors => validation workspace errors
      | .error fault => CommandReport.failure workspace (Fault.ofDisplay fault)
  | .error (.schema error) => validation workspace [error]
  | .error error => CommandReport.failure workspace error.fault

/-- Prints a compiled schema. -/
def showSchema (workspace : Workspace) (schema : CompiledSchema) : CommandReport :=
  { CommandReport.ended workspace 0 with output := (schema.toJson.sorted.indented 0) ++ "\n" }

/-- The failure to log that a module was loaded, when entries of that level are written: an entry
has a module of its own already. -/
def loadedEntryFault : Fault :=
  Fault.plain .key (Quoted.ofText "Attempt to overwrite 'module' in LogRecord")

/-- Runs load: the report of the command, and what the event types kept. -/
def runWorkload {EventType Own : Type} (invocation : Invocation) (workspace : Workspace)
    (settings : Settings) (mode : RunMode) (workload : Workload EventType Own) (own : Own) :
    CommandReport × Own :=
  let plan : RunPlan EventType Own := { mode, settings, workload, clock := invocation.clock }
  let run := plan.run invocation.limit invocation.actions workspace own
  let report : CommandReport :=
    match run.result with
    | .ok status => CommandReport.ended run.workspace status.number
    | .error fault =>
        if fault.reach = .handled then
          (CommandReport.ended run.workspace ExitStatus.failed.number).logged
            [LogEntry.error run.time (("eventgen failed: " : Text) ++ fault.message)]
        else CommandReport.failure run.workspace fault
  (report.logged run.log, run.own)

/-- The end of a command whose module cannot be loaded. -/
def refuseModule (workspace : Workspace) (reference : Text) (fault : ImportFault) :
    CommandReport :=
  if fault.isExpected then
    (CommandReport.ended workspace ExitStatus.failed.number).logged
      [LogEntry.error 0 (("Can't load events module " : Text) ++ reference ++ ": " ++
        fault.message)]
  else CommandReport.failure workspace fault.fault

/-- Runs load with a module that is loaded in a session, which it goes on with. -/
def runModule (invocation : Invocation) (session : ScriptState) (settings : Settings)
    (mode : RunMode) (module : LoadedModule) : CommandReport × ScriptState :=
  let workspace := session.workspace
  if settings.level.number ≤ LogLevel.info.number then
    (CommandReport.failure workspace loadedEntryFault, session)
  else
    match module with
    | .declared module =>
        ((runWorkload invocation workspace settings mode module.workload ()).1, session)
    | .scripted place _ _ =>
        let (report, work) := runWorkload invocation workspace settings mode
          (ScriptedWork.workload place) { session }
        (report, work.session)

/-- Loads the module that a reference names and runs load with it. -/
def runReference (invocation : Invocation) (workspace : Workspace) (settings : Settings)
    (mode : RunMode) (reference : Text) : CommandReport :=
  let session := ScriptState.opening workspace (invocation.clock 0) invocation.environment
  let (found, session) := ModuleImport.perform session reference
  let (report, session) :=
    match found with
    | .error fault => (refuseModule session.workspace reference fault, session)
    | .ok module => runModule invocation session settings mode module
  { report with
    output := session.output ++ report.output, errors := session.errors ++ report.errors }

/-- Runs load with the module that is given, or with that of the settings. -/
def runLoad (invocation : Invocation) (workspace : Workspace) (mode : RunMode)
    (events : Option Text) (settings : Settings) : CommandReport :=
  match nonempty? events <|> nonempty? settings.eventsModule with
  | none =>
      CommandReport.refusal workspace 1 "No events module: pass --events or set EVENTS_MODULE"
  | some reference => runReference invocation workspace settings mode reference

/-- Performs a command. -/
def perform (invocation : Invocation) (workspace : Workspace) : Command → CommandReport
  | .generate schema output =>
      withSettings invocation workspace fun _ =>
        withSchema invocation workspace schema fun path =>
          withCompiled invocation workspace path fun compiled =>
            match output with
            | some output => writeModule workspace output compiled
            | none => CommandReport.failure workspace outputFault
  | .validate schema =>
      withSettings invocation workspace fun _ =>
        withSchema invocation workspace schema (checkSchema invocation workspace)
  | .inspect schema =>
      withSettings invocation workspace fun _ =>
        withSchema invocation workspace schema fun path =>
          withCompiled invocation workspace path (showSchema workspace)
  | .run mode events => withSettings invocation workspace (runLoad invocation workspace mode events)

end Command

/-- The exit status for a command line that cannot be read. -/
def UsageError.status : Nat := 2

/-- Performs what a command line asks for. -/
def CommandLine.perform (invocation : Invocation) (workspace : Workspace)
    (arguments : List Text) : CommandReport :=
  match CommandLine.ofArguments arguments with
  | .error error => CommandReport.refusal workspace UsageError.status error.message
  | .ok .help => CommandReport.ended workspace 0
  | .ok (.command asked) => asked.perform invocation workspace

end EventForge
