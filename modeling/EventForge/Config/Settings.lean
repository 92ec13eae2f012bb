import EventForge.Config.Value
import EventForge.Log

/-!
# Settings

Settings come from arguments and from environment variables, whose names ignore case; arguments
win.  Every value is checked, and all problems are reported in the order of the settings.  An
interval must not be zero or less.
-/

namespace EventForge

inductive LogFormat
  | json
  | text
deriving DecidableEq, Repr, Inhabited

def LogFormat.name : LogFormat → Text
  | .json => "json"
  | .text => "text"

structure Settings where
  databasePath : Text := "eventgen.db"
  retryCount : Int := 5
  busyTimeout : Int := 5000
  seed : Int := 0
  writeInterval : Float := 5.0
  readInterval : Float := 5.0
  checkInterval : Float := 10.0
  statsInterval : Float := 10.0
  schemaPath : Option Text := none
  eventsModule : Option Text := none
  /-- The name of the level, in capitals. -/
  logLevel : Text := "INFO"
  logFormat : LogFormat := .json
deriving Inhabited

/-- Why a value is no interval. -/
inductive IntervalFault
  | duration (fault : DurationFault)
  | notPositive (shown : Text)
deriving DecidableEq, Repr

namespace IntervalFault

def message : IntervalFault → Text
  | .duration fault => fault.message
  | .notPositive shown => ("interval must be positive, got " : Text) ++ shown

/-- Whether a value is refused.  A number that is too large is not refused but fails. -/
def isRefusal : IntervalFault → Bool
  | .duration .tooLarge => false
  | .duration (.invalid _) | .notPositive _ => true

end IntervalFault

/-- What is wrong with the value of a setting. -/
inductive SettingFault
  | text
  | undecodable
  | integer (refusal : IntegerRefusal)
  | below (least : Int)
  | interval (fault : IntervalFault)
  | level (shown : Text)
  | format
  | unknown
deriving DecidableEq, Repr

namespace SettingFault

/-- The name of a kind of problem. -/
def kind : SettingFault → Text
  | .text => "string_type"
  | .undecodable => "string_unicode"
  | .integer .type => "int_type"
  | .integer .text => "int_parsing"
  | .integer .surrogate => "string_unicode"
  | .integer .tooLong => "int_parsing_size"
  | .integer .fraction => "int_from_float"
  | .integer .notFinite => "finite_number"
  | .below _ => "greater_than_equal"
  | .interval _ | .level _ => "value_error"
  | .format => "literal_error"
  | .unknown => "extra_forbidden"

def message : SettingFault → Text
  | .text => "Input should be a valid string"
  | .undecodable => "Input should be a valid string, unable to parse raw data as a unicode string"
  | .integer .type => "Input should be a valid integer"
  | .integer .text =>
      "Input should be a valid integer, unable to parse string as an integer"
  | .integer .surrogate =>
      "Input should be a valid string, unable to parse raw data as a unicode string"
  | .integer .tooLong =>
      "Unable to parse input string as an integer, exceeded maximum size"
  | .integer .fraction =>
      "Input should be a valid integer, got a number with a fractional part"
  | .integer .notFinite => "Input should be a finite number"
  | .below least => ("Input should be greater than or equal to " : Text) ++ Text.ofInt least
  | .interval fault => ("Value error, " : Text) ++ fault.message
  | .level shown => ("Value error, unknown log level " : Text) ++ shown
  | .format => "Input should be 'json' or 'text'"
  | .unknown => "Extra inputs are not permitted"

end SettingFault

/-- Why settings are refused: problems of single settings, or an interval beyond every double. -/
inductive SettingsError
  | invalid (problems : List (Text × SettingFault))
  | tooLarge
deriving DecidableEq, Repr

namespace Settings

/-- The names of the settings, in order. -/
def names : List Text :=
  ["db_path", "db_retry_count", "db_busy_timeout_ms", "random_seed", "write_interval",
    "read_interval", "check_interval", "stats_interval", "type_mapping_path", "events_module",
    "log_level", "log_format"]

/-- Where the values of settings come from. -/
structure Inputs where
  arguments : List (Text × Document)
  environment : List (Text × Text)

/-- The value given for a setting, if there is one.  Of several arguments whose names differ in case
the first one counts, of several variables the last one. -/
def Inputs.value? (inputs : Inputs) (name : Text) : Option Document :=
  match inputs.arguments.find? fun entry => entry.1.lower == name with
  | some entry => some entry.2
  | none =>
      (inputs.environment.reverse.find? fun entry => entry.1.lower == name).map fun entry =>
        .text entry.2

/-- A checked value; an interval beyond every double ends the checks. -/
inductive Checked (Value : Type)
  | ok (value : Value)
  | wrong (fault : SettingFault)
  | tooLarge

def checkText (value : Document) : Checked Text :=
  match value with
  | .text text => .ok text
  | .bytes bytes =>
      match Utf8.decode bytes with
      | .ok text => .ok text
      | .error _ => .wrong .undecodable
  | _ => .wrong .text

def checkOptionalText (value : Document) : Checked (Option Text) :=
  match value with
  | .null => .ok none
  | value =>
      match checkText value with
      | .ok text => .ok (some text)
      | .wrong fault => .wrong fault
      | .tooLarge => .tooLarge

def checkInteger (least? : Option Int) (value : Document) : Checked Int :=
  match LenientInteger.ofDocument value with
  | .error refusal => .wrong (.integer refusal)
  | .ok number =>
      match least? with
      | none => .ok number
      | some least => if number < least then .wrong (.below least) else .ok number

/-- The seconds of an interval; what does not compare as zero or less is accepted. -/
def parseInterval (value : Document) : Except IntervalFault Float := do
  let seconds ← (Duration.ofDocument value).mapError .duration
  if seconds ≤ 0.0 then throw (.notPositive value.display)
  return seconds

def checkDuration (value : Document) : Checked Float :=
  match parseInterval value with
  | .ok seconds => .ok seconds
  | .error (.duration .tooLarge) => .tooLarge
  | .error fault => .wrong (.interval fault)

def checkLevel (value : Document) : Checked Text :=
  match checkText value with
  | .ok text =>
      if (LogLevel.ofName? text.upper).isSome then .ok text.upper
      else .wrong (.level (Quoted.ofText text))
  | .wrong fault => .wrong fault
  | .tooLarge => .tooLarge

def checkFormat (value : Document) : Checked LogFormat :=
  match value with
  | .text text =>
      if text = ("json" : Text) then .ok .json
      else if text = ("text" : Text) then .ok .text
      else if text.any CodePoint.isSurrogate then .wrong .undecodable
      else .wrong .format
  | _ => .wrong .format

/-- The settings so far and the problems found. -/
structure Progress where
  settings : Settings
  problems : List (Text × SettingFault)

/-- Takes one setting over, if it is given. -/
def takeOver {Value : Type} (inputs : Inputs) (name : Text) (check : Document → Checked Value)
    (set : Settings → Value → Settings) (progress : Progress) : Except SettingsError Progress :=
  match inputs.value? name with
  | none => .ok progress
  | some value =>
      match check value with
      | .ok value => .ok { progress with settings := set progress.settings value }
      | .wrong fault => .ok { progress with problems := progress.problems ++ [(name, fault)] }
      | .tooLarge => .error .tooLarge

/-- The settings that arguments and environment give. -/
def make (inputs : Inputs) : Except SettingsError Settings := do
  let progress : Progress := { settings := {}, problems := [] }
  let progress ← takeOver inputs "db_path" checkText
    (fun settings value => { settings with databasePath := value }) progress
  let progress ← takeOver inputs "db_retry_count" (checkInteger (some 1))
    (fun settings value => { settings with retryCount := value }) progress
  let progress ← takeOver inputs "db_busy_timeout_ms" (checkInteger (some 0))
    (fun settings value => { settings with busyTimeout := value }) progress
  let progress ← takeOver inputs "random_seed" (checkInteger none)
    (fun settings value => { settings with seed := value }) progress
  let progress ← takeOver inputs "write_interval" checkDuration
    (fun settings value => { settings with writeInterval := value }) progress
  let progress ← takeOver inputs "read_interval" checkDuration
    (fun settings value => { settings with readInterval := value }) progress
  let progress ← takeOver inputs "check_interval" checkDuration
    (fun settings value => { settings with checkInterval := value }) progress
  let progress ← takeOver inputs "stats_interval" checkDuration
    (fun settings value => { settings with statsInterval := value }) progress
  let progress ← takeOver inputs "type_mapping_path" checkOptionalText
    (fun settings value => { settings with schemaPath := value }) progress
  let progress ← takeOver inputs "events_module" checkOptionalText
    (fun settings value => { settings with eventsModule := value }) progress
  let progress ← takeOver inputs "log_level" checkLevel
    (fun settings value => { settings with logLevel := value }) progress
  let progress ← takeOver inputs "log_format" checkFormat
    (fun settings value => { settings with logFormat := value }) progress
  let unknown := (inputs.arguments.filter fun entry => !names.contains entry.1.lower).map
    fun entry => (entry.1, SettingFault.unknown)
  let problems := progress.problems ++ unknown
  if problems.isEmpty then return progress.settings
  throw (.invalid problems)

end Settings

/-- A library that makes settings of what is given for them. -/
structure SettingsLibrary where
  /-- The value that is given for a setting, if there is one. -/
  value? : Settings.Inputs → Text → Option Document
  make : Settings.Inputs → Except SettingsError Settings

namespace Settings

/-- The library that is used. -/
def library : SettingsLibrary := { value? := Inputs.value?, make }

/-- The level of the log. -/
def level (settings : Settings) : LogLevel :=
  (LogLevel.ofName? settings.logLevel.upper).getD .info

/-- The form of a log line. -/
def logPattern (settings : Settings) : Text :=
  match settings.logFormat with
  | .json => "%(message)s"
  | .text => "%(asctime)s - %(name)s - %(levelname)s - %(message)s"

/-- The settings as values, in order. -/
def toFields (settings : Settings) : Fields Document :=
  let optional (value : Option Text) : Document := (value.map Document.text).getD .null
  [("db_path", .text settings.databasePath), ("db_retry_count", .integer settings.retryCount),
    ("db_busy_timeout_ms", .integer settings.busyTimeout), ("random_seed", .integer settings.seed),
    ("write_interval", .float settings.writeInterval),
    ("read_interval", .float settings.readInterval),
    ("check_interval", .float settings.checkInterval),
    ("stats_interval", .float settings.statsInterval),
    ("type_mapping_path", optional settings.schemaPath),
    ("events_module", optional settings.eventsModule), ("log_level", .text settings.logLevel),
    ("log_format", .text settings.logFormat.name)]

/-- The settings that the log shows when a run starts. -/
def loggedNames : List Text :=
  ["db_path", "db_retry_count", "random_seed", "write_interval", "read_interval",
    "check_interval", "stats_interval", "events_module"]

/-- The values that the log shows when a run starts. -/
def logged (settings : Settings) : Fields Document :=
  settings.toFields.filter fun entry => loggedNames.contains entry.1

/-- The entry of the log that shows the settings. -/
def logMessage : Text := "eventgen configuration"

end Settings

end EventForge
