import EventForge.Fault
import EventForge.Log
import EventForge.Number.Binary64

/-!
# Connecting with retries

A database that cannot be opened is tried again after a delay, which grows by the same step after
every failure.  There is no delay after the last failure.
-/

namespace EventForge

/-!
## Sums and products of documents

Numbers add and multiply as quantities, truth values as one and zero.  Two texts, two runs of bytes
or two lists add to one that holds both, and one of them multiplies with an integer to a repetition
of itself.
-/

/-- Why two documents have no sum or product. -/
inductive ArithmeticFault
  /-- An operation, by its mark, that the kinds of two documents do not have. -/
  | kinds (mark first second : Text)
  /-- Something other than its own kind behind a text. -/
  | textBehind (kind : Text)
  | listBehind (kind : Text)
  | bytesBehind (kind : Text)
  /-- A repetition by something other than an integer. -/
  | repetition (kind : Text)
  | tooOften
  /-- An integer beyond all doubles beside a double. -/
  | tooLarge
deriving DecidableEq, Repr

namespace ArithmeticFault

def message : ArithmeticFault → Text
  | .kinds mark first second =>
      ("unsupported operand type(s) for " : Text) ++ mark ++ ": '" ++ first ++ "' and '" ++
        second ++ "'"
  | .textBehind kind => ("can only concatenate str (not \"" : Text) ++ kind ++ "\") to str"
  | .listBehind kind => ("can only concatenate list (not \"" : Text) ++ kind ++ "\") to list"
  | .bytesBehind kind => ("can't concat " : Text) ++ kind ++ " to bytes"
  | .repetition kind => ("can't multiply sequence by non-int of type '" : Text) ++ kind ++ "'"
  | .tooOften => "cannot fit 'int' into an index-sized integer"
  | .tooLarge => "int too large to convert to float"

def kind : ArithmeticFault → FaultKind
  | .tooOften | .tooLarge => .overflow
  | _ => .type

def fault (fault : ArithmeticFault) : Fault := Fault.plain fault.kind fault.message

end ArithmeticFault

namespace Document

/-- The quantity that a number is. -/
def quantity? : Document → Option Quantity
  | .bool value => some (.whole (if value then 1 else 0))
  | .integer value => some (.whole value)
  | .float value => some (.real value)
  | _ => none

def ofQuantity : Quantity → Document
  | .whole value => .integer value
  | .real value => .float value

/-- Combines two numbers. -/
def combine (operation : Quantity → Quantity → Option Quantity) (first second : Quantity) :
    Except ArithmeticFault Document :=
  match operation first second with
  | some result => .ok (ofQuantity result)
  | none => .error .tooLarge

/-- The number of repetitions that an integer asks for. -/
def repetitions (count : Document) : Except ArithmeticFault Nat :=
  match count.quantity? with
  | some (.whole count) =>
      if twoTo 63 ≤ count.natAbs then .error .tooOften else .ok count.toNat
  | _ => .error (.repetition count.kindName)

/-- Repeats a text, a run of bytes or a list, if the document is one of them. -/
def repeated? (count : Document) : Document → Option (Except ArithmeticFault Document)
  | .text value => some do return .text (List.replicate (← repetitions count) value).flatten
  | .bytes value => some do return .bytes (List.replicate (← repetitions count) value).flatten
  | .list items => some do return .list (List.replicate (← repetitions count) items).flatten
  | _ => none

def mul (first second : Document) : Except ArithmeticFault Document :=
  match first.quantity?, second.quantity? with
  | some left, some right => combine Quantity.mul? left right
  | _, _ =>
      match first.repeated? second, second.repeated? first with
      | some result, _ => result
      | none, some result => result
      | none, none => .error (.kinds "*" first.kindName second.kindName)

def add (first second : Document) : Except ArithmeticFault Document :=
  match first.quantity?, second.quantity? with
  | some left, some right => combine Quantity.add? left right
  | _, _ =>
      match first, second with
      | .text left, .text right => .ok (.text (left ++ right))
      | .text _, other => .error (.textBehind other.kindName)
      | .bytes left, .bytes right => .ok (.bytes (left ++ right))
      | .bytes _, other => .error (.bytesBehind other.kindName)
      | .list left, .list right => .ok (.list (left ++ right))
      | .list _, other => .error (.listBehind other.kindName)
      | _, _ => .error (.kinds "+" first.kindName second.kindName)

end Document

/-!
## Waiting
-/

/-- How often to try, how long to wait in between, and how many milliseconds every statement may
wait for a lock. -/
structure RetryPolicy where
  attempts : Int := 5
  busyTimeout : Int := 5000
  initialDelay : Rat := 1
  backoffStep : Rat := 5
deriving DecidableEq, Repr

/-- Why there is no connection. -/
inductive ConnectFault
  /-- The policy does not allow one attempt. -/
  | noAttempts (attempts : Int)
  /-- The wait for locks lies beyond all doubles. -/
  | endlessWait
  /-- Every attempt failed, the last with a reason. -/
  | exhausted (path : Text) (attempts : Nat) (reason : Text)
deriving DecidableEq, Repr

namespace ConnectFault

def toFault : ConnectFault → Fault
  | .noAttempts attempts =>
      Fault.ofValue (("max_attempts must be >= 1, got " : Text) ++ Text.ofInt attempts)
  | .endlessWait => Fault.plain .overflow "int too large to convert to float"
  | .exhausted path attempts reason =>
      { kind := .connection
        message :=
          ("can't connect to database after " : Text) ++ Text.ofNat attempts ++ " attempts: " ++
            reason
        code := some "CONNECTION_ERROR"
        details := [("address", .text path), ("attempts", .integer attempts)] }

end ConnectFault

namespace RetryPolicy

/-- The delay after a failed attempt, counted from zero. -/
def delay (policy : RetryPolicy) (attempt : Nat) : Rat :=
  policy.initialDelay + attempt * policy.backoffStep

/-- How long is waited after a failed attempt: not at all for a delay below zero. -/
def pause (policy : RetryPolicy) (attempt : Nat) : Rat :=
  if policy.delay attempt ≤ 0 then 0 else policy.delay attempt

/-- The wait for locks in milliseconds that takes effect: none unless it is a positive 32-bit
number. -/
def lockWait (policy : RetryPolicy) : Int :=
  if 0 < policy.busyTimeout && policy.busyTimeout < twoTo 31 then policy.busyTimeout else 0

/-- The delay for values of any kind. -/
def delayOf (attempt initialDelay backoffStep : Document) : Except ArithmeticFault Document := do
  initialDelay.add (← attempt.mul backoffStep)

end RetryPolicy

/-- The end of connecting: when, with what, and what was logged. -/
structure Connecting (Opened : Type) where
  time : Instant
  outcome : Except ConnectFault Opened
  log : List LogEntry

namespace Connecting

/-- The entry of the log for a failed attempt, counted from zero. -/
def failureEntry (now : Instant) (attempt total : Nat) (reason : Text) : LogEntry :=
  LogEntry.warning now (("Database connection attempt " : Text) ++ Text.ofNat (attempt + 1) ++
    "/" ++ Text.ofNat total ++ " failed: " ++ reason)

/-- The entry of the log for a connection. -/
def successEntry (now : Instant) (path : Text) : LogEntry :=
  LogEntry.info now (("Connected to database at " : Text) ++ path)

/-- The remaining attempts, from `now` on.  `attempt` were made already.  What an attempt comes to
depends on when it is made and on what it finds, and it leaves something else to the next one. -/
def attempts {World Opened : Type} (policy : RetryPolicy) (path : Text) (total : Nat)
    (opening : Instant → World → Except Text Opened × World) (attempt : Nat) (now : Instant)
    (world : World) : Nat → Connecting Opened × World
  | 0 => ({ time := now, outcome := .error (.exhausted path total []), log := [] }, world)
  | remaining + 1 =>
      match opening now world with
      | (.ok connection, left) =>
          ({ time := now, outcome := .ok connection, log := [successEntry now path] }, left)
      | (.error reason, left) =>
          let entry := failureEntry now attempt total reason
          if remaining = 0 then
            ({ time := now, outcome := .error (.exhausted path total reason), log := [entry] }, left)
          else
            let rest := attempts policy path total opening (attempt + 1)
              (now + policy.pause attempt) left remaining
            ({ rest.1 with log := entry :: rest.1.log }, rest.2)

/-- As many attempts as a policy allows, beginning at `now`. -/
def follow {World Opened : Type} (policy : RetryPolicy) (path : Text)
    (opening : Instant → World → Except Text Opened × World) (now : Instant) (world : World) :
    Connecting Opened × World :=
  if policy.attempts < 1 then
    ({ time := now, outcome := .error (.noAttempts policy.attempts), log := [] }, world)
  else attempts policy path policy.attempts.toNat opening 0 now world policy.attempts.toNat

/-- Connects to the database at a path, beginning at `now`.  A wait for locks beyond all doubles
ends the first attempt, and no other is made. -/
def run {Opened : Type} (policy : RetryPolicy) (path : Text)
    (opened : Instant → Except Text Opened) (now : Instant) : Connecting Opened :=
  if 1 ≤ policy.attempts ∧ (Binary64.ofInt? policy.busyTimeout).isNone then
    { time := now, outcome := .error .endlessWait, log := [] }
  else (follow policy path (fun now (_ : Unit) => (opened now, ())) now ()).1

end Connecting

end EventForge
