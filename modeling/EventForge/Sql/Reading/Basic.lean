import EventForge.Sql.Statement
import EventForge.Sql.Token

/-!
# Reading statements

Statements are read token by token.  A text that is no statement is refused at the first token that
does not fit.  Words of the language are the same in any case; most of them also serve as names.
-/

namespace EventForge

/-- A refusal, and how many tokens were left where it arose. -/
structure Refusal where
  fault : SqlRefusal
  left : Nat
deriving DecidableEq, Repr

/-- Reads a part of a statement from the front of some tokens. -/
abbrev SqlReader := StateT (List SqlToken) (Except Refusal)

namespace SqlReader

/-- The refusal of the first of some tokens.  A semicolon ends a statement. -/
def refusal : List SqlToken → SqlRefusal
  | [] => .incomplete
  | token :: _ =>
      if token.kind = .illegal then .unrecognized token.written else .syntaxNear token.written

def refuse {Value : Type} : SqlReader Value := fun tokens =>
  .error { fault := refusal tokens, left := tokens.length }

/-- Refuses what was read for a reason. -/
def refuseFor {Value : Type} (fault : SqlRefusal) : SqlReader Value := fun tokens =>
  .error { fault, left := tokens.length }

/-- Whether the first token is a word of the language. -/
def atWord (word : Text) : SqlReader Bool := fun tokens =>
  .ok ((tokens.head?.map (SqlToken.isWord word)).getD false, tokens)

/-- Whether the first token is one of some words of the language. -/
def atWords (words : List Text) : SqlReader Bool := fun tokens =>
  .ok (words.any fun word => (tokens.head?.map (SqlToken.isWord word)).getD false, tokens)

def atSymbol (symbol : Text) : SqlReader Bool := fun tokens =>
  .ok ((tokens.head?.map (SqlToken.isSymbol symbol)).getD false, tokens)

/-- Whether the second token is a symbol. -/
def nextIsSymbol (symbol : Text) : SqlReader Bool := fun tokens =>
  .ok ((tokens[1]?.map (SqlToken.isSymbol symbol)).getD false, tokens)

/-- Whether the second token is a word of the language. -/
def nextIsWord (word : Text) : SqlReader Bool := fun tokens =>
  .ok ((tokens[1]?.map (SqlToken.isWord word)).getD false, tokens)

/-- Leaves out the first token. -/
def skip : SqlReader Unit := fun tokens => .ok ((), tokens.drop 1)

/-- Takes a word of the language if it is there. -/
def word (text : Text) : SqlReader Bool := do
  if ← atWord text then
    skip
    return true
  return false

/-- Takes a word of the language if it is there and allowed. -/
def wordIf (allowed : Bool) (text : Text) : SqlReader Bool :=
  if allowed then word text else return false

/-- Takes a symbol if it is there. -/
def symbol (text : Text) : SqlReader Bool := do
  if ← atSymbol text then
    skip
    return true
  return false

/-- Takes a symbol if it is there and allowed. -/
def symbolIf (allowed : Bool) (text : Text) : SqlReader Bool :=
  if allowed then symbol text else return false

/-- Takes words of the language that must be there. -/
def words : List Text → SqlReader Unit
  | [] => return ()
  | text :: texts => do
      if ← word text then words texts else refuse

/-- Takes a symbol that must be there. -/
def need (text : Text) : SqlReader Unit := do
  if ← symbol text then return () else refuse

/-- Words that cannot name anything unless they are quoted. -/
def reservedWords : List Text := List.map Text.ofString [
  "add", "all", "alter", "and", "as", "autoincrement", "between", "case", "check", "collate",
  "commit", "constraint", "create", "default", "deferrable", "delete", "distinct", "drop", "else",
  "escape", "except", "exists", "foreign", "from", "group", "having", "in", "index", "insert",
  "intersect", "into", "is", "isnull", "join", "limit", "not", "nothing", "notnull", "null", "on",
  "or", "order", "primary", "references", "returning", "select", "set", "table", "then", "to",
  "transaction", "union", "unique", "update", "using", "values", "when", "where"]

/-- Words that join tables.  They name columns and tables, but are no part of a type or an alias. -/
def joiningWords : List Text := List.map Text.ofString [
  "cross", "full", "indexed", "inner", "left", "natural", "outer", "right"]

/-- The name that a token is, if it is one. -/
def nameOf? (token : SqlToken) : Option Text :=
  match token.kind with
  | .word =>
      if reservedWords.contains token.written.toAsciiLower then none else some token.written
  | .quotedName content | .string content => some content
  | _ => none

/-- The name that a token is where no word that joins tables can stand. -/
def plainName? (token : SqlToken) : Option Text :=
  if token.kind = .word && joiningWords.contains token.written.toAsciiLower then none
  else nameOf? token

/-- The name that a token is where neither words that join tables nor texts can stand. -/
def bareName? (token : SqlToken) : Option Text :=
  match token.kind with
  | .string _ => none
  | _ => if token.isWord "indexed" then some token.written else plainName? token

/-- Takes a name if it is there. -/
def name? : SqlReader (Option Text)
  | [] => .ok (none, [])
  | token :: tokens =>
      match nameOf? token with
      | some found => .ok (some found, tokens)
      | none => .ok (none, token :: tokens)

/-- Takes a name that must be there. -/
def name : SqlReader Text := do
  match ← name? with
  | some found => return found
  | none => refuse

/-- Takes a name that joins no tables, if it is there. -/
def plainName : SqlReader (Option Text)
  | [] => .ok (none, [])
  | token :: tokens =>
      match plainName? token with
      | some found => .ok (some found, tokens)
      | none => .ok (none, token :: tokens)

/-- Takes a name that is neither a text nor a word that joins tables, and must be there. -/
def bareName : SqlReader (Text × Text)
  | [] => refuse []
  | token :: tokens =>
      match bareName? token with
      | some found => .ok ((found, token.written), tokens)
      | none => refuse (token :: tokens)

/-- Whether `if not exists` stands there, of which the first word brings the others. -/
def ifAbsent : SqlReader Bool := do
  if ← word "if" then
    words ["not", "exists"]
    return true
  return false

/-- Whether `if exists` stands there. -/
def ifPresent : SqlReader Bool := do
  if ← word "if" then
    words ["exists"]
    return true
  return false

/-- The tokens that a reader takes, with what it reads. -/
def spanned {Value : Type} (reader : SqlReader Value) : SqlReader (Value × List SqlToken) :=
  fun tokens => do
    let (value, rest) ← reader tokens
    return ((value, tokens.take (tokens.length - rest.length)), rest)

/-- A name, perhaps behind the database that it belongs to. -/
def objectName : SqlReader ObjectName := do
  let (first, tokens) ← spanned name
  if ← symbol "." then
    let (second, tokens) ← spanned name
    return { database := some first, name := second, written := SqlToken.span tokens }
  return { name := first, written := SqlToken.span tokens }

/-- Items with commas between them.  The fuel bounds their number. -/
def separated {Value : Type} (item : SqlReader Value) : Nat → SqlReader (List Value)
  | 0 => refuse
  | fuel + 1 => do
      let first ← item
      if ← symbol "," then return first :: (← separated item fuel)
      return [first]

/-- How many tokens there are. -/
def count : SqlReader Nat := fun tokens => .ok (tokens.length, tokens)

/-- Items with commas between them. -/
def list {Value : Type} (item : SqlReader Value) : SqlReader (List Value) := do
  separated item ((← count) + 1)

/-- Items in parentheses. -/
def enclosed {Value : Type} (item : SqlReader Value) : SqlReader (List Value) := do
  need "("
  let items ← list item
  need ")"
  return items

/-- Names in parentheses, if they are there. -/
def enclosedNames : SqlReader (List Text) := do
  if ← atSymbol "(" then enclosed name else return []

/-- The words of a type. -/
def typeWords : List SqlToken → List SqlToken
  | [] => []
  | token :: tokens => if (plainName? token).isSome then token :: typeWords tokens else []

/-- A number that may have a sign. -/
def signedNumber : SqlReader Unit := fun tokens =>
  let signed := tokens.head?.any fun token => token.isSymbol "-" || token.isSymbol "+"
  let rest := if signed then tokens.drop 1 else tokens
  match rest with
  | token :: more => if token.kind = .number then .ok ((), more) else refuse rest
  | [] => refuse []

/-- The sizes of a type in parentheses, if they are there. -/
def sizes : SqlReader Unit := do
  if ← symbol "(" then
    signedNumber
    if ← symbol "," then signedNumber
    need ")"

/-- The tokens of a type, if there are any. -/
def typeTokens : SqlReader Unit := fun tokens =>
  let found := typeWords tokens
  if found.isEmpty then .ok ((), tokens) else sizes (tokens.drop found.length)

/-- A type as it is written; empty if there is none. -/
def typeName : SqlReader Text := do
  let (_, tokens) ← spanned typeTokens
  return SqlToken.span tokens

/-- Whether an order is descending. -/
def descending : SqlReader Bool := do
  if ← word "asc" then return false
  word "desc"

/-- What settles a conflict. -/
def resolution : SqlReader Resolution := do
  if ← word "rollback" then return .rollback
  if ← word "abort" then return .abort
  if ← word "fail" then return .fail
  if ← word "ignore" then return .ignore
  if ← word "replace" then return .replace
  refuse

/-- What settles a conflict with a rule, behind `on conflict`. -/
def conflictRule : SqlReader (Option Resolution) := do
  if ← word "on" then
    words ["conflict"]
    return some (← resolution)
  return none

end SqlReader

end EventForge
