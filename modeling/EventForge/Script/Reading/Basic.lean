import EventForge.Script.Token
import EventForge.Script.Syntax
import EventForge.Schema.Identifier

/-!
# Reading scripts

Scripts are read token by token.  A script that breaks the grammar is refused at the first token
that does not fit, unless a better reason is known.  What the grammar allows but no script may do is
noted on the way and reported when the whole script has been read.
-/

namespace EventForge

/-- Why reading stops. -/
inductive ReadingStop
  /-- The first of these tokens does not fit; those from the last one that was looked at are
  reached.
  -/
  | refused (tokens reached : List ScriptToken)
  /-- A broken token stands in the way. -/
  | broken (error : ScriptError)
  /-- There is a better reason than that the first of these tokens does not fit. -/
  | failed (error : ScriptError) (tokens : List ScriptToken)
deriving DecidableEq, Repr

/-- What stands around a statement. -/
structure ScriptScope where
  inFunction : Bool := false
  /-- Whether the function can wait. -/
  isAsync : Bool := false
  inLoop : Bool := false
deriving DecidableEq, Repr, Inhabited

/-- The round of checks that finds what no script may do; earlier rounds report first. -/
inductive CheckRound
  | features
  | names
  | flow
deriving DecidableEq, Repr, Inhabited

structure ScriptReading where
  tokens : List ScriptToken
  /-- How many tokens are left. -/
  left : Nat
  /-- The fewest tokens that were left where a token was looked at, and those tokens. -/
  reached : Nat × List ScriptToken
  /-- The depth behind the last token that was taken. -/
  depth : Nat := 0
  scope : ScriptScope := {}
  /-- Whether no statement has been read. -/
  isFirst : Bool := true
  /-- Whether forms of the language can still be asked for. -/
  isOpening : Bool := true
  notes : List (CheckRound × ScriptError) := []

/-- Reads a part of a script. -/
abbrev ScriptReader := StateT ScriptReading (Except ReadingStop)

namespace ScriptReader

/-- Starts to read some tokens. -/
def start (tokens : List ScriptToken) (scope : ScriptScope) : ScriptReading :=
  { tokens, left := tokens.length, reached := (tokens.length, tokens), scope }

/-- Refuses the first token. -/
def refuse {Value : Type} : ScriptReader Value := do
  let state ← get
  throw (.refused state.tokens state.reached.2)

def failWith {Value : Type} (error : ScriptError) : ScriptReader Value := do
  throw (.failed error (← get).reached.2)

def fail {Value : Type} (reason : Text) (line : Nat) : ScriptReader Value :=
  failWith (.grammar reason line)

/-- The first token. -/
def head : ScriptReader ScriptToken := do
  let state ← get
  match state.tokens with
  | [] => refuse
  | token :: _ =>
      match token.kind with
      | .broken found => throw (.broken found.error)
      | _ =>
          if state.left < state.reached.1 then
            set { state with reached := (state.left, state.tokens) }
          return token

/-- The line of the first token. -/
def line : ScriptReader Nat := do return (← head).line

/-- Takes the first token. -/
def take : ScriptReader ScriptToken := do
  let token ← head
  modify fun state =>
    { state with tokens := state.tokens.drop 1, left := state.left - 1, depth := token.depth }
  return token

def atKind (kind : ScriptTokenKind) : ScriptReader Bool := do return (← head).kind = kind

/-- Takes a token of a kind if it is there. -/
def kind (wanted : ScriptTokenKind) : ScriptReader Bool := do
  if ← atKind wanted then
    let _ ← take
    return true
  return false

def atSymbol (mark : Text) : ScriptReader Bool := atKind (.symbol mark)

def symbol (mark : Text) : ScriptReader Bool := kind (.symbol mark)

def atWord (word : Text) : ScriptReader Bool := atKind (.word word)

def word (word : Text) : ScriptReader Bool := kind (.word word)

/-- Takes a token of a kind that must be there. -/
def need (wanted : ScriptTokenKind) : ScriptReader Unit := do
  if ← kind wanted then return () else refuse

def needSymbol (mark : Text) : ScriptReader Unit := need (.symbol mark)

def needWord (word : Text) : ScriptReader Unit := need (.word word)

/-- The name that a token is, if it is one. -/
def nameOf? (token : ScriptToken) : Option Text :=
  match token.kind with
  | .word name => if Identifier.moduleWords.contains name then none else some name
  | _ => none

/-- Takes a name that must be there. -/
def name : ScriptReader Text := do
  match nameOf? (← head) with
  | some found =>
      let _ ← take
      return found
  | none => refuse

/-- A state in which some tokens have been looked at. -/
def reaching (tokens : List ScriptToken) (state : ScriptReading) : ScriptReading :=
  if tokens.length < state.reached.1 then { state with reached := (tokens.length, tokens) }
  else state

/-- What a reader reads, if it can, with the state behind it; nothing is taken. -/
def lookAhead {Value : Type} (reader : ScriptReader Value) :
    ScriptReader (Option (Value × ScriptReading)) := fun state =>
  match reader state with
  | .ok (found, behind) => .ok (some (found, behind), { state with reached := behind.reached })
  | .error (.refused _ reached) => .ok (none, reaching reached state)
  | .error stop => .error stop

/-- Whether a reader can read at least a part; nothing is taken. -/
def canReadPart {Value : Type} (reader : ScriptReader Value) : ScriptReader Bool := fun state =>
  match reader state with
  | .ok (_, behind) => .ok (true, { state with reached := behind.reached })
  | .error (.refused _ reached) => .ok (false, reaching reached state)
  | .error (.failed _ reached) => .ok (true, { state with reached := (reached.length, reached) })
  | .error stop => .error stop

/-- The depth behind what a reader can read, at least in part; nothing is taken. -/
def depthBehind {Value : Type} (reader : ScriptReader Value) : ScriptReader (Option Nat) :=
  fun state =>
    match reader state with
    | .ok (_, behind) => .ok (some behind.depth, { state with reached := behind.reached })
    | .error (.refused _ reached) => .ok (none, reaching reached state)
    | .error (.failed _ reached) =>
        .ok (some state.depth, { state with reached := (reached.length, reached) })
    | .error stop => .error stop

/-- Whether a reader can read; nothing is taken. -/
def canRead {Value : Type} (reader : ScriptReader Value) : ScriptReader Bool := fun state =>
  match reader state with
  | .ok _ => .ok (true, state)
  | .error _ => .ok (false, state)

/-- Notes what no script may do. -/
def note (round : CheckRound) (reason : Text) (line : Nat) : ScriptReader Unit :=
  modify fun state => { state with notes := state.notes ++ [(round, .grammar reason line)] }

/-- Reads with something else around. -/
def within {Value : Type} (scope : ScriptScope → ScriptScope) (reader : ScriptReader Value) :
    ScriptReader Value := do
  let before := (← get).scope
  modify fun state => { state with scope := scope state.scope }
  let found ← reader
  modify fun state => { state with scope := before }
  return found

/-- The error for the first of some tokens, in place of `error`.  A broken token behind it is
reported if it was found first or if it lacks the end of a bracket that was opened on a line above.
-/
def errorAt (error : ScriptError) : List ScriptToken → ScriptError
  | [] => error
  | token :: tokens =>
      let broken? := tokens.findSome? fun other =>
        match other.kind with
        | .broken found => some (found, other.depth)
        | _ => none
      match broken? with
      | none => error
      | some (found, depth) =>
          if found.isFirst then found.error
          else
            match found.error with
            | .grammar _ line => if 0 < depth && line < token.line then found.error else error
            | _ => error

/-- The error that stopped a reader. -/
def stopError : ReadingStop → ScriptError
  | .broken error => error
  | .failed error tokens => errorAt error tokens
  | .refused [] _ => .grammar "invalid syntax" 1
  | .refused (token :: tokens) reached =>
      match token.kind with
      | .indent => .indentation "unexpected indent" token.line
      | .dedent => .indentation "unexpected unindent" token.line
      | _ =>
          errorAt (.grammar "invalid syntax" token.line)
            (if reached.length ≤ tokens.length then reached else token :: tokens)

/-- The error among notes that is reported: the first of the earliest round. -/
def firstNote? (notes : List (CheckRound × ScriptError)) : Option ScriptError :=
  let of (round : CheckRound) :=
    (notes.find? fun note => note.1 = round).map fun note => note.2
  of .features <|> of .names <|> of .flow

end ScriptReader

end EventForge
