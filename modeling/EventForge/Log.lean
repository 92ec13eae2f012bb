import EventForge.Number.ShortestDecimal
import EventForge.Text.Case

/-!
# Log records

The levels of a log and the records that are kept of what happens.
-/

namespace EventForge

/-!
## Levels of log entries

Every entry of the log has a level.  A level may go by several names; entries below the level that
is set are not written.
-/

inductive LogLevel
  | notset
  | debug
  | info
  | warning
  | error
  | critical
deriving DecidableEq, Repr, Inhabited

namespace LogLevel

def number : LogLevel → Nat
  | .notset => 0
  | .debug => 10
  | .info => 20
  | .warning => 30
  | .error => 40
  | .critical => 50

/-- The name of a level in the log. -/
def name : LogLevel → Text
  | .notset => "NOTSET"
  | .debug => "DEBUG"
  | .info => "INFO"
  | .warning => "WARNING"
  | .error => "ERROR"
  | .critical => "CRITICAL"

/-- The names by which a level can be set. -/
def names : List (Text × LogLevel) :=
  [("CRITICAL", .critical), ("FATAL", .critical), ("ERROR", .error), ("WARN", .warning),
    ("WARNING", .warning), ("INFO", .info), ("DEBUG", .debug), ("NOTSET", .notset)]

/-- The level with a name in capitals. -/
def ofName? (name : Text) : Option LogLevel :=
  (names.find? fun entry => entry.1 == name).map (·.2)

end LogLevel

/-!
## The log

An entry of the log has a time, a level and a message.  Times are exact.
-/

/-- Seconds since the beginning of a run. -/
abbrev Instant := Rat

/-- The earlier one of two instants. -/
def Instant.earlier (first second : Instant) : Instant :=
  if first ≤ second then first else second

structure LogEntry where
  time : Instant
  level : LogLevel
  message : Text
deriving Inhabited

namespace LogEntry

def info (time : Instant) (message : Text) : LogEntry := { time, level := .info, message }

def warning (time : Instant) (message : Text) : LogEntry := { time, level := .warning, message }

def error (time : Instant) (message : Text) : LogEntry := { time, level := .error, message }

end LogEntry

/-- A span of time in seconds as the log shows it and as it is. -/
structure Span where
  shown : Text
  seconds : Rat
deriving Inhabited

namespace Span

/-- What an endless span lasts: longer than any finite one. -/
def endless : Rat := (twoTo 1024 : Nat)

/-- The span of a number of seconds. -/
def ofFloat (seconds : Float) : Span :=
  { shown := ShortestDecimal.text seconds
    seconds :=
      match Binary64.ofFloat seconds with
      | .finite negative significand exponent =>
          let ratio := Binary64.ratio negative significand exponent
          mkRat ratio.1 ratio.2
      | .infinite negative => if negative then -endless else endless
      | .nan => endless }

end Span

end EventForge
