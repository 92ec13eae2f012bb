import EventForge.Script.Reading.Basic
import EventForge.Number.Reading

/-!
# Reading expressions of scripts

Operators bind with different strengths; those of one strength are read from left to right, powers
from right to left.  Each reader takes a fuel that is greater than the depth of what it can read.
-/

namespace EventForge

namespace ScriptReader

/-- How strongly an operator between two operands binds. -/
def strength? (mark : Text) : Option Nat :=
  let within (marks : List String) : Bool := marks.any fun other => Text.ofString other = mark
  if within ["|"] then some 1
  else if within ["^"] then some 2
  else if within ["&"] then some 3
  else if within ["<<", ">>"] then some 4
  else if within ["+", "-"] then some 5
  else if within ["*", "/", "//", "%", "@"] then some 6
  else none

/-- Takes an operator that binds at least with a strength. -/
def operator? (least : Nat) : ScriptReader (Option (Text × Nat)) := do
  match (← head).kind with
  | .symbol mark =>
      match strength? mark with
      | some strength =>
          if least ≤ strength then
            let _ ← take
            return some (mark, strength)
          return none
      | none => return none
  | _ => return none

/-- Takes the mark of a comparison. -/
def comparisonMark? : ScriptReader (Option Text) := do
  for mark in List.map Text.ofString ["==", "!=", "<", "<=", ">", ">=", "in"] do
    if ← symbol mark then return some mark
    if ← word mark then return some mark
  if ← word "is" then
    if ← word "not" then return some "is not"
    return some "is"
  if ← atWord "not" then
    match ((← get).tokens.drop 1).head? with
    | some next =>
        if next.kind = .word "in" then
          let _ ← take
          let _ ← take
          return some "not in"
        return none
    | none => return none
  return none

/-- The value of a number as it is written. -/
def numberValue (written : Text) : ScriptExpression :=
  let lead := written.take 2
  let based (base : Nat) : ScriptExpression :=
    .constant (.integer ((Reading.integer base (written.drop 2)).toOption.getD 0))
  if lead = ("0x" : Text) then based 16
  else if lead = ("0o" : Text) then based 8
  else if lead = ("0b" : Text) then based 2
  else if written.getLast? = some (CodePoint.ofChar 'j') then
    .imaginary ((Reading.float? written.dropLast).getD 0)
  else if written.all CodePoint.isAsciiDigit then .constant (.integer written.digitsValue)
  else .constant (.float ((Reading.float? written).getD 0))

/-- Whether a token can begin an expression. -/
def begins (token : ScriptToken) : Bool :=
  match token.kind with
  | .word name =>
      (nameOf? token).isSome ||
        (List.map Text.ofString ["True", "False", "None", "not", "lambda", "await"]).contains name
  | .number _ | .string _ _ => true
  | .symbol mark =>
      (List.map Text.ofString ["(", "[", "\x7b", "-", "+", "~", "..."]).contains mark
  | _ => false

/-- Words that open a statement of their own in some places. -/
def softWords : List Text := ["_", "case", "match"]

/-- Statements of an earlier form of the language that look like a word in front of an
expression. -/
def formerStatements : List Text := ["print", "exec"]

def isName : ScriptExpression → Bool
  | .name _ => true
  | _ => false

/-- Whether an expression is bound more strongly than a comparison is. -/
def isOperand : ScriptExpression → Bool
  | .comparison _ _ | .both _ _ | .either _ _ | .choice _ _ _ | .function _ _
  | .unary .negate _ | .binding _ _ | .starred _ => false
  | _ => true

/-- Whether a mistaken assignment to an expression is told as such, where no assignment can be. -/
def isMistakenTarget (value : ScriptExpression) : Bool :=
  isOperand value &&
    match value with
    | .list _ | .tuple _ | .constant .null | .constant (.bool _)
    | .comprehension .stream _ _ _ => false
    | _ => true

/-- The reason against an assignment where none can be. -/
def mistakenTarget (value : ScriptExpression) : Text :=
  if isName value then
    "invalid syntax. Maybe you meant '==' or ':=' instead of '='?"
  else ("cannot assign to " : Text) ++ value.description ++
    " here. Maybe you meant '==' instead of '='?"

/-- The names that are given more than once, apart from the first time. -/
def repeatedNames (names : List Text) : List Text :=
  match names with
  | [] => []
  | name :: others =>
      (if others.contains name then [name] else []) ++ repeatedNames others

/-- The pieces of a text with values in it: plain text, and the text of each value with its
conversion, whether its text is shown too, and the pieces of its format. -/
inductive TextPiece
  | plain (text : Text)
  | value (source : Text) (conversion : TextConversion) (isNamed : Bool)
      (format : Option (List TextPiece))
  | fault (reason : Text)
deriving Inhabited

/-- The conversion that a letter behind a value asks for. -/
def conversionOf? (letter : CodePoint) : Option TextConversion :=
  if letter = 's' then some .plain
  else if letter = 'r' then some .display
  else if letter = 'a' then some .ascii
  else none

/-- The text of a value up to where it ends, between brackets that are open, the innermost first. -/
def valueSource : Option CodePoint → List CodePoint → Text → Except Text (Text × Text)
  | some _, _, [] => .error "f-string: unterminated string"
  | none, opener :: _, [] => .error (("f-string: unmatched '" : Text) ++ [opener] ++ "'")
  | none, [], [] => .error "f-string: expecting '\x7d'"
  | quote, openers, point :: rest =>
      let go (quote : Option CodePoint) (openers : List CodePoint) : Except Text (Text × Text) :=
        (valueSource quote openers rest).map fun found => (point :: found.1, found.2)
      if point = '\\' then .error "f-string expression part cannot include a backslash"
      else if quote.isSome then go (if quote = some point then none else quote) openers
      else if point = '"' || point = '\'' then go (some point) openers
      else if point = '#' then .error "f-string expression part cannot include '#'"
      else if (ScriptToken.closerOf? point).isSome then go none (point :: openers)
      else
        let isDouble := rest.head? = some (CodePoint.ofChar '=')
        let isMark := point = '!' || point = '=' || point = '<' || point = '>'
        match openers with
        | opener :: others =>
            if !ScriptToken.isCloser point then go none openers
            else if ScriptToken.closerOf? opener = some point then go none others
            else .error (("f-string: closing parenthesis '" : Text) ++ [point] ++
              "' does not match opening parenthesis '" ++ [opener] ++ "'")
        | [] =>
            if point = '}' || point = ':' then .ok ([], point :: rest)
            else if ScriptToken.isCloser point then
              .error (("f-string: unmatched '" : Text) ++ [point] ++ "'")
            else if isMark && isDouble then
              match rest with
              | next :: more =>
                  (valueSource none [] more).map fun found =>
                    (point :: next :: found.1, found.2)
              | [] => .error "f-string: expecting '\x7d'"
            else if point = '!' || point = '=' then .ok ([], point :: rest)
            else go none []

/-- Whether a text holds blanks only. -/
def isBlankSource (source : Text) : Bool :=
  source.all fun point => point = ' ' || point.val = 0x09 || point.val = 0x0A || point.val = 0x0C

/-- The reason against a value without text in front of a mark. -/
def emptyReason (rest : Text) : Text :=
  match rest with
  | point :: _ =>
      if point = '!' || point = ':' || point = '=' then
        ("f-string: expression required before '" : Text) ++ [point] ++ "'"
      else "f-string: empty expression not allowed"
  | [] => "f-string: empty expression not allowed"

/-- The marks behind a value: whether its text is shown too, its conversion, and the rest. -/
def valueMarks (rest : Text) : Bool × Option (Option CodePoint) × Text :=
  let isNamed := rest.head? = some (CodePoint.ofChar '=')
  let rest :=
    if isNamed then (rest.drop 1).dropWhile fun (point : CodePoint) => point = ' ' else rest
  if rest.head? = some (CodePoint.ofChar '!') then (isNamed, some (rest.drop 1).head?, rest.drop 2)
  else (isNamed, none, rest)

/-- The pieces of a text with values in it.  The depth counts the values around it; the text of a
format ends with the brace that ends its value. -/
def textPieces : Nat → Nat → Text → Text → List TextPiece × Text
  | 0, _, plain, rest => ([.plain plain.reverse], rest)
  | _ + 1, _, plain, [] => ([.plain plain.reverse], [])
  | fuel + 1, depth, plain, point :: rest =>
      let ended (pieces : List TextPiece) : List TextPiece × Text :=
        (.plain plain.reverse :: pieces, [])
      if depth = 0 && (point = '{' || point = '}') && rest.head? = some point then
        textPieces fuel depth (point :: plain) (rest.drop 1)
      else if point = '}' then
        if depth = 0 then ended [.fault "f-string: single '\x7d' is not allowed"]
        else ([.plain plain.reverse], point :: rest)
      else if point ≠ '{' then textPieces fuel depth (point :: plain) rest
      else if 2 ≤ depth then ended [.fault "f-string: expressions nested too deeply"]
      else
        match valueSource none [] rest with
        | .error reason => ended [.fault reason]
        | .ok (source, rest) =>
            if isBlankSource source then ended [.fault (emptyReason rest)]
            else
              let (isNamed, conversion, rest) := valueMarks rest
              let isFormatted := rest.head? = some (CodePoint.ofChar ':')
              let standard : TextConversion := if isNamed && !isFormatted then .display else .plain
              let meant? :=
                match conversion with
                | none => some standard
                | some letter => letter.bind conversionOf?
              match meant? with
              | none =>
                  ended [.value source .plain isNamed none, .fault
                    "f-string: invalid conversion character: expected 's', 'r', or 'a'"]
              | some meant =>
                  let (format, rest) :=
                    if isFormatted then
                      let (pieces, rest) := textPieces fuel (depth + 1) [] (rest.drop 1)
                      (some pieces, rest)
                    else (none, rest)
                  let value : TextPiece := .value source meant isNamed format
                  match rest with
                  | brace :: behind =>
                      if brace = '}' then
                        let (others, rest) := textPieces fuel depth [] behind
                        (.plain plain.reverse :: value :: others, rest)
                      else ended [value, .fault "f-string: expecting '\x7d'"]
                  | [] => ended [value, .fault "f-string: expecting '\x7d'"]

/-- Reads all the rest with a reader. -/
def whole (reader : ScriptReader ScriptExpression) : ScriptReader ScriptExpression := do
  let found ← reader
  need .lineEnd
  need .finish
  return found

/-- Puts the tokens of a value in a text into parentheses, and reads them. -/
def embedded (reader : ScriptReader ScriptExpression) (source : Text) (line : Nat) :
    ScriptReader ScriptExpression := fun state =>
  let tokens := (ScriptToken.ofText (("(" : Text) ++ source ++ ")")).map fun token =>
    { token with line := token.line + line - 1 }
  match (whole reader).run (start tokens state.scope) with
  | .ok (found, inner) => .ok (found, { state with notes := state.notes ++ inner.notes })
  | .error stop =>
      match stop, stopError stop with
      | .failed _ _, .grammar reason place | .refused _ _, .grammar reason place =>
          .error (.failed (.grammar (("f-string: " : Text) ++ reason) place) state.reached.2)
      | _, error => .error (.failed error state.reached.2)

/-- A parameter in front of a stroke, which is taken by its place only. -/
def placedBefore (parameter : ScriptParameter) : ScriptParameter :=
  (if parameter.1 = .plain then .placed else parameter.1, parameter.2)

/-- What stands between commas. -/
inductive ItemShape
  /-- An expression, or members of a collection behind a star. -/
  | value
  /-- A value that may be bound to a name. -/
  | named
  | index
  | target
deriving DecidableEq, Repr

mutual

/-- An expression, or members of a collection behind a star. -/
def starExpression : Nat → ScriptReader ScriptExpression
  | 0 => refuse
  | fuel + 1 => do
      if ← symbol "*" then return .starred (← operation fuel 1)
      expression fuel
termination_by structural fuel => fuel

/-- One of some items. -/
def itemOf : Nat → ItemShape → ScriptReader ScriptExpression
  | 0, _ => refuse
  | fuel + 1, .value => starExpression fuel
  | fuel + 1, .named => item fuel
  | fuel + 1, .index => index fuel
  | fuel + 1, .target => target fuel
termination_by structural fuel => fuel

/-- Items behind the first one, with commas between them, and whether there is a comma behind the
last one.  They end where no item can begin. -/
def itemsBehind : Nat → ItemShape → ScriptReader (List ScriptExpression × Bool)
  | 0, _ => refuse
  | fuel + 1, shape => do
      if ← symbol "," then
        let next ← head
        let isBound := shape = .index && next.kind = .symbol ":"
        if begins next || next.kind = .symbol "*" || isBound then
          let first ← itemOf fuel shape
          let (others, closed) ← itemsBehind fuel shape
          return (first :: others, closed)
        return ([], true)
      return ([], false)
termination_by structural fuel => fuel

/-- Expressions with commas between them, which are a tuple if there is a comma. -/
def expressions : Nat → ScriptReader ScriptExpression
  | 0 => refuse
  | fuel + 1 => do
      let start ← line
      let first ← starExpression fuel
      let (others, closed) ← itemsBehind fuel .value
      if others.isEmpty && !closed then
        match first with
        | .starred _ => note .flow "can't use starred expression here" start
        | _ => return first
        return first
      return .tuple (first :: others)
termination_by structural fuel => fuel

/-- An expression that may bind a name, or members of a collection behind a star. -/
def item : Nat → ScriptReader ScriptExpression
  | 0 => refuse
  | fuel + 1 => do
      if ← symbol "*" then return .starred (← operation fuel 1)
      namedExpression fuel
termination_by structural fuel => fuel

/-- An expression that may bind a name. -/
def namedExpression : Nat → ScriptReader ScriptExpression
  | 0 => refuse
  | fuel + 1 => do
      let start ← line
      let value ← expression fuel
      if ← atSymbol ":=" then
        match value with
        | .name name =>
            let _ ← take
            return .binding name (← expression fuel)
        | other =>
            fail (("cannot use assignment expressions with " : Text) ++ other.description) start
      if ← atSymbol "=" then
        refuseTarget fuel start value
      return value
termination_by structural fuel => fuel

/-- Refuses a mistaken assignment to a value at the first token. -/
def refuseTarget : Nat → Nat → ScriptExpression → ScriptReader Unit
  | 0, _, _ => refuse
  | fuel + 1, start, value => do
      if isName value || isMistakenTarget value then
        let assigned ← lookAhead do
          needSymbol "="
          let _ ← operation fuel 1
          if (← atSymbol "=") || (← atSymbol ":=") then refuse
        if assigned.isSome then fail (mistakenTarget value) start
termination_by structural fuel => fuel

/-- Refuses an expression that stands behind another one. -/
def refuseNeighbour : Nat → Nat → ScriptToken → ScriptExpression → ScriptReader Unit
  | 0, _, _, _ => refuse
  | fuel + 1, start, opening, value => do
      let next ← head
      if !begins next then return ()
      let former : Bool := match value with
        | .name name => formerStatements.contains name
        | _ => false
      let isString := match next.kind with
        | .string _ _ => true
        | _ => false
      let soft := match opening.kind with
        | .word name => softWords.contains name || (isName value && isString)
        | _ => false
      if former then
        if next.kind ≠ .symbol "(" then
          if ← canReadPart (expressions fuel) then
            match value with
            | .name name =>
                fail (("Missing parentheses in call to '" : Text) ++ name ++
                  "'. Did you mean " ++ name ++ "(...)?") start
            | _ => return ()
      else if !soft then
        match ← depthBehind (expression fuel) with
        | some depth =>
            if 0 < depth then fail "invalid syntax. Perhaps you forgot a comma?" start
        | none => return ()
termination_by structural fuel => fuel

/-- An expression. -/
def expression : Nat → ScriptReader ScriptExpression
  | 0 => refuse
  | fuel + 1 => do
      let opening ← head
      if ← word "lambda" then
        let parameters ← parameters fuel (.symbol ":") false
        needSymbol ":"
        return .function parameters
          (← within (fun _ => { inFunction := true }) (expression fuel))
      let value ← disjunction fuel
      if ← atWord "if" then
        let behind ← lookAhead do
          needWord "if"
          let _ ← disjunction fuel
          return ((← atWord "else"), (← atSymbol ":"))
        match behind with
        | some ((true, _), _) =>
            needWord "if"
            let condition ← disjunction fuel
            needWord "else"
            return .choice condition value (← expression fuel)
        | some ((false, false), _) =>
            fail "expected 'else' after 'if' expression" opening.line
        | _ => return value
      refuseNeighbour fuel opening.line opening value
      return value
termination_by structural fuel => fuel

def disjunction : Nat → ScriptReader ScriptExpression
  | 0 => refuse
  | fuel + 1 => do
      let first ← conjunction fuel
      if ← word "or" then return .either first (← disjunction fuel)
      return first
termination_by structural fuel => fuel

def conjunction : Nat → ScriptReader ScriptExpression
  | 0 => refuse
  | fuel + 1 => do
      let first ← inversion fuel
      if ← word "and" then return .both first (← conjunction fuel)
      return first
termination_by structural fuel => fuel

def inversion : Nat → ScriptReader ScriptExpression
  | 0 => refuse
  | fuel + 1 => do
      if ← word "not" then return .unary .negate (← inversion fuel)
      let first ← operation fuel 1
      let others ← comparisons fuel
      return if others.isEmpty then first else .comparison first others
termination_by structural fuel => fuel

def comparisons : Nat → ScriptReader (List (Text × ScriptExpression))
  | 0 => refuse
  | fuel + 1 => do
      match ← comparisonMark? with
      | some mark =>
          let second ← operation fuel 1
          return (mark, second) :: (← comparisons fuel)
      | none => return []
termination_by structural fuel => fuel

/-- Operands with operators between them that bind at least with a strength. -/
def operation : Nat → Nat → ScriptReader ScriptExpression
  | 0, _ => refuse
  | fuel + 1, least => do
      let first ← operand fuel
      operationBehind fuel least first
termination_by structural fuel => fuel

def operationBehind : Nat → Nat → ScriptExpression → ScriptReader ScriptExpression
  | 0, _, _ => refuse
  | fuel + 1, least, first => do
      match ← operator? least with
      | some (mark, strength) =>
          let second ← operation fuel (strength + 1)
          operationBehind fuel least (.binary mark first second)
      | none => return first
termination_by structural fuel => fuel

/-- An operand with its signs and its power. -/
def operand : Nat → ScriptReader ScriptExpression
  | 0 => refuse
  | fuel + 1 => do
      if ← symbol "+" then return .unary .plus (← operand fuel)
      if ← symbol "-" then return .unary .minus (← operand fuel)
      if ← symbol "~" then return .unary .invert (← operand fuel)
      let start ← line
      let base ←
        if ← word "await" then
          let scope := (← get).scope
          if !scope.isAsync then
            note .flow (if scope.inFunction then "'await' outside async function"
              else "'await' outside function") start
          pure (.suspended .wait (some (← primary fuel)))
        else primary fuel
      if ← symbol "**" then return .binary "**" base (← operand fuel)
      return base
termination_by structural fuel => fuel

/-- An atom with what is asked of it. -/
def primary : Nat → ScriptReader ScriptExpression
  | 0 => refuse
  | fuel + 1 => do
      let first ← atom fuel
      primaryBehind fuel first
termination_by structural fuel => fuel

def primaryBehind : Nat → ScriptExpression → ScriptReader ScriptExpression
  | 0, _ => refuse
  | fuel + 1, value => do
      if ← symbol "." then
        primaryBehind fuel (.attribute value (← name))
      else if ← symbol "(" then
        let given ← arguments fuel []
        needSymbol ")"
        primaryBehind fuel (.call value given)
      else if ← symbol "[" then
        let first ← index fuel
        let (others, closed) ← itemsBehind fuel .index
        needSymbol "]"
        primaryBehind fuel
          (.item value (if others.isEmpty && !closed then first else .tuple (first :: others)))
      else return value
termination_by structural fuel => fuel

/-- What stands between the brackets behind a collection. -/
def index : Nat → ScriptReader ScriptExpression
  | 0 => refuse
  | fuel + 1 => do
      let first ← if ← atSymbol ":" then pure none else (do return some (← item fuel))
      if ← symbol ":" then
        let second ← bound fuel
        let third ← if ← symbol ":" then bound fuel else pure none
        return .slice [first, second, third]
      match first with
      | some value => return value
      | none => refuse
termination_by structural fuel => fuel

/-- A bound of a slice, if there is one. -/
def bound : Nat → ScriptReader (Option ScriptExpression)
  | 0 => refuse
  | fuel + 1 => do
      if begins (← head) then return some (← expression fuel)
      return none
termination_by structural fuel => fuel

/-- The arguments of a call behind those that are given. -/
def arguments : Nat → List (ArgumentShape × ScriptExpression) →
    ScriptReader (List (ArgumentShape × ScriptExpression))
  | 0, _ => refuse
  | fuel + 1, given => do
      if ← atSymbol ")" then return given
      let start ← line
      let hasNames := given.any fun argument =>
        match argument.1 with
        | .named _ | .entries => true
        | _ => false
      let hasEntries := given.any fun argument => argument.1 = .entries
      let mut argument : ArgumentShape × ScriptExpression := (.plain, .ellipsis)
      if ← symbol "**" then
        argument := (.entries, ← expression fuel)
      else if ← symbol "*" then
        if hasEntries then
          fail "iterable argument unpacking follows keyword argument unpacking" start
        if !begins (← head) then fail "Invalid star expression" (← line)
        argument := (.members, ← expression fuel)
      else
        let value ← expression fuel
        if ← atSymbol "=" then
          match value with
          | .name name =>
              needSymbol "="
              let value ← expression fuel
              if ← atWord "for" then
                fail "invalid syntax. Maybe you meant '==' or ':=' instead of '='?" start
              if given.any fun other => other.1 = .named name then
                note .flow (("keyword argument repeated: " : Text) ++ name) start
              argument := (.named name, value)
          | .constant .null | .constant (.bool _) =>
              fail (("cannot assign to " : Text) ++ value.description) start
          | _ => fail "expression cannot contain assignment, perhaps you meant \"==\"?" start
        else if (← atWord "for") || (← atWord "async") then
          let sources ← sources fuel
          if !given.isEmpty || (← atSymbol ",") then
            fail "Generator expression must be parenthesized" start
          argument := (.plain, .comprehension .stream value none sources)
        else if ← atSymbol ":=" then
          match value with
          | .name name =>
              let _ ← take
              argument := (.plain, .binding name (← expression fuel))
          | _ => refuse
        else argument := (.plain, value)
        if argument.1 = .plain && hasNames then
          fail (if hasEntries then "positional argument follows keyword argument unpacking"
            else "positional argument follows keyword argument") (← line)
      if ← symbol "," then arguments fuel (given ++ [argument])
      else return given ++ [argument]
termination_by structural fuel => fuel

/-- Where a comprehension takes its members from, and its conditions. -/
def sources : Nat →
    ScriptReader (List MemberSource)
  | 0 => refuse
  | fuel + 1 => do
      let waits ← word "async"
      if !waits then
        if !(← atWord "for") then return []
      needWord "for"
      let target ← sourceTargets fuel
      let source ← disjunction fuel
      let conditions ← conditions fuel
      return (waits, target, source, conditions) :: (← sources fuel)
termination_by structural fuel => fuel

def conditions : Nat → ScriptReader (List ScriptExpression)
  | 0 => refuse
  | fuel + 1 => do
      if ← word "if" then
        let first ← disjunction fuel
        return first :: (← conditions fuel)
      return []
termination_by structural fuel => fuel

/-- What the members of a source are assigned to, and the word in front of the source. -/
def sourceTargets : Nat → ScriptReader ScriptExpression
  | 0 => refuse
  | fuel + 1 => do
      let before ← get
      let found ← targets fuel
      if !(← word "in") then
        let tokens := (← get).tokens
        set before
        let _ ← lookAhead (expressions fuel)
        throw (.refused tokens (← get).reached.2)
      return found
termination_by structural fuel => fuel

/-- What the members of a source are assigned to. -/
def targets : Nat → ScriptReader ScriptExpression
  | 0 => refuse
  | fuel + 1 => do
      let start ← line
      let first ← target fuel
      let (others, closed) ← itemsBehind fuel .target
      let found := if others.isEmpty && !closed then first else .tuple (first :: others)
      match found.unassignable? false with
      | some part => fail (("cannot assign to " : Text) ++ part.description) start
      | none => return found
termination_by structural fuel => fuel

def target : Nat → ScriptReader ScriptExpression
  | 0 => refuse
  | fuel + 1 => do
      if ← symbol "*" then return .starred (← operation fuel 1)
      operation fuel 1
termination_by structural fuel => fuel

/-- What stands for itself: a name, a constant, or something between brackets. -/
def atom : Nat → ScriptReader ScriptExpression
  | 0 => refuse
  | fuel + 1 => do
      let token ← head
      match token.kind with
      | .word found =>
          if found = ("None" : Text) then
            let _ ← take
            return .constant .null
          if found = ("True" : Text) || found = ("False" : Text) then
            let _ ← take
            return .constant (.bool (found = ("True" : Text)))
          return .name (← name)
      | .number written =>
          let _ ← take
          return numberValue written
      | .string _ _ => texts fuel none []
      | .symbol _ =>
          if ← symbol "..." then return .ellipsis
          if ← symbol "(" then group fuel token.line
          else if ← symbol "[" then
            let (items, sources) ← members fuel "]"
            needSymbol "]"
            return match items, sources with
              | [first], _ :: _ => .comprehension .list first none sources
              | _, _ => .list items
          else if ← symbol "\x7b" then braces fuel
          else refuse
      | _ => refuse
termination_by structural fuel => fuel

/-- What stands behind an opening parenthesis. -/
def group : Nat → Nat → ScriptReader ScriptExpression
  | 0, _ => refuse
  | fuel + 1, start => do
      if ← symbol ")" then return .tuple []
      if ← atWord "yield" then
        let value ← yielding fuel
        needSymbol ")"
        return value
      if ← atSymbol "**" then
        let behind ← lookAhead do
          needSymbol "**"
          let _ ← expression fuel
          needSymbol ")"
        if behind.isSome then fail "cannot use double starred expression here" start
        refuse
      let start ← line
      let first ← item fuel
      let isStarred := match first with
        | .starred _ => true
        | _ => false
      if (← atWord "for") || (← atWord "async") then
        let sources ← sources fuel
        needSymbol ")"
        if isStarred then fail "iterable unpacking cannot be used in comprehension" start
        return .comprehension .stream first none sources
      let (others, closed) ← itemsBehind fuel .named
      needSymbol ")"
      if others.isEmpty && !closed then
        if isStarred then fail "cannot use starred expression here" start
        return first
      return .tuple (first :: others)
termination_by structural fuel => fuel

/-- The members of a list or set, or what a comprehension makes of its sources. -/
def members : Nat → Text →
    ScriptReader (List ScriptExpression ×
      List MemberSource)
  | 0, _ => refuse
  | fuel + 1, closer => do
      if ← atSymbol closer then return ([], [])
      let start ← line
      let first ← item fuel
      membersBehind fuel start first
termination_by structural fuel => fuel

/-- The members of a list or set behind the first one. -/
def membersBehind : Nat → Nat → ScriptExpression →
    ScriptReader (List ScriptExpression ×
      List MemberSource)
  | 0, _, _ => refuse
  | fuel + 1, start, first => do
      if (← atWord "for") || (← atWord "async") then
        let sources ← sources fuel
        match first with
        | .starred _ => fail "iterable unpacking cannot be used in comprehension" start
        | _ => return ([first], sources)
      let (others, closed) ← itemsBehind fuel .named
      if (closed || !others.isEmpty) && (← atWord "for") then
        if (← lookAhead (sources fuel)).isSome then
          fail "did you forget parentheses around the comprehension target?" start
      return (first :: others, [])
termination_by structural fuel => fuel

/-- What stands behind an opening brace. -/
def braces : Nat → ScriptReader ScriptExpression
  | 0 => refuse
  | fuel + 1 => do
      if ← symbol "\x7d" then return .mapping []
      let start ← line
      if ← symbol "**" then
        let value ← operation fuel 1
        if ← atWord "for" then
          if (← lookAhead (do
              let _ ← sources fuel
              needSymbol "\x7d")).isSome then
            fail "dict unpacking cannot be used in dict comprehension" start
        entriesBehind fuel [(none, value)]
      else
        let first ← item fuel
        let isEntry := match first with
          | .starred _ | .binding _ _ => false
          | _ => true
        if isEntry then
          if ← symbol ":" then
            let value ← entryValue fuel start
            if (← atWord "for") || (← atWord "async") then
              let sources ← sources fuel
              needSymbol "\x7d"
              return .comprehension .mapping first (some value) sources
            return ← entriesBehind fuel [(some first, value)]
        let (items, sources) ← membersBehind fuel start first
        needSymbol "\x7d"
        return match sources with
          | _ :: _ => .comprehension .set first none sources
          | [] => .set items
termination_by structural fuel => fuel

/-- The value of an entry of a mapping behind its colon. -/
def entryValue : Nat → Nat → ScriptReader ScriptExpression
  | 0, _ => refuse
  | fuel + 1, start => do
      if ← atSymbol "*" then
        let behind ← lookAhead do
          needSymbol "*"
          operation fuel 1
        if behind.isSome then
          fail "cannot use a starred expression in a dictionary value" start
      if (← atSymbol "\x7d") || (← atSymbol ",") then
        fail "expression expected after dictionary key and ':'" start
      expression fuel
termination_by structural fuel => fuel

/-- The entries of a mapping behind those that are given, to the closing brace. -/
def entriesBehind : Nat → List (Option ScriptExpression × ScriptExpression) →
    ScriptReader ScriptExpression
  | 0, _ => refuse
  | fuel + 1, given => do
      if !(← symbol ",") then
        needSymbol "\x7d"
        return .mapping given
      if ← symbol "\x7d" then return .mapping given
      let start ← line
      if ← symbol "**" then
        entriesBehind fuel (given ++ [(none, ← operation fuel 1)])
      else
        let key ← expression fuel
        if !(← symbol ":") then fail "':' expected after dictionary key" start
        let value ← entryValue fuel start
        entriesBehind fuel (given ++ [(some key, value)])
termination_by structural fuel => fuel

/-- The value of neighbouring strings, behind those with a value. -/
def texts : Nat → Option Document → List ScriptExpression → ScriptReader ScriptExpression
  | 0, _, _ => refuse
  | fuel + 1, value, pieces => do
      let token ← head
      match token.kind with
      | .string marks body =>
          let _ ← take
          if marks.contains (CodePoint.ofChar 'f') then
            let isBytes := match value with
              | some (.bytes _) => true
              | _ => false
            if isBytes then fail "cannot mix bytes and nonbytes literals" token.line
            let found ← textValues fuel token.line marks (textPieces (body.length + 1) 0 [] body).1
            let before := (value.map fun value => [ScriptExpression.constant value]).getD []
            texts fuel (some (.text [])) (pieces ++ before ++ found)
          else
            match ScriptString.value marks body with
            | .error fault => fail fault.message token.line
            | .ok found =>
                match value, found with
                | none, found => texts fuel (some found) pieces
                | some (.text first), .text second =>
                    texts fuel (some (.text (first ++ second))) pieces
                | some (.bytes first), .bytes second =>
                    texts fuel (some (.bytes (first ++ second))) pieces
                | some _, _ => fail "cannot mix bytes and nonbytes literals" token.line
      | _ =>
          let last := value.getD (.text [])
          return if pieces.isEmpty then .constant last
            else .formatted (pieces ++ [.constant last])
termination_by structural fuel => fuel

/-- The expressions for the pieces of a text with values in it. -/
def textValues : Nat → Nat → Text → List TextPiece → ScriptReader (List ScriptExpression)
  | 0, _, _, _ => refuse
  | _ + 1, _, _, [] => return []
  | fuel + 1, line, marks, piece :: others => do
      match piece with
      | .plain text =>
          match ScriptString.value (marks.filter fun letter => letter = 'r') text with
          | .error fault => fail fault.message line
          | .ok value =>
              return .constant value :: (← textValues fuel line marks others)
      | .fault reason => fail reason line
      | .value source conversion isNamed format =>
          let value ← embedded (expressions fuel) source line
          let named := if isNamed then [ScriptExpression.constant (.text (source ++ "="))] else []
          let format ←
            match format with
            | none => pure none
            | some pieces =>
                (do return some (ScriptExpression.formatted (← textValues fuel line marks pieces)))
          return named ++ .shown value conversion format :: (← textValues fuel line marks others)
termination_by structural fuel => fuel

/-- What a function hands out while it goes on. -/
def yielding : Nat → ScriptReader ScriptExpression
  | 0 => refuse
  | fuel + 1 => do
      let start ← line
      needWord "yield"
      let scope := (← get).scope
      if !scope.inFunction then note .flow "'yield' outside function" start
      if ← word "from" then
        if scope.isAsync then note .flow "'yield from' inside async function" start
        return .suspended .handOutAll (some (← expression fuel))
      let next ← head
      if begins next || next.kind = .symbol "*" then
        return .suspended .handOut (some (← expressions fuel))
      return .suspended .handOut none
termination_by structural fuel => fuel

/-- The parameters of a function up to a closing token. -/
def parameters : Nat → ScriptTokenKind → Bool → ScriptReader (List ScriptParameter)
  | 0, _, _ => refuse
  | fuel + 1, closer, annotated => do
      let start ← line
      let found ← parametersBehind fuel closer annotated []
      let names := (found.map fun parameter => parameter.2.1).filter fun name => !name.isEmpty
      match repeatedNames names with
      | name :: _ =>
          note .names (("duplicate argument '" : Text) ++ name ++ "' in function definition") start
      | [] => return found.filter fun parameter => !parameter.2.1.isEmpty
      return found
termination_by structural fuel => fuel

/-- The parameters of a function behind those that are given.  A star alone and a stroke stand for
parameters without a name. -/
def parametersBehind : Nat → ScriptTokenKind → Bool → List ScriptParameter →
    ScriptReader (List ScriptParameter)
  | 0, _, _, _ => refuse
  | fuel + 1, closer, annotated, given => do
      if ← atKind closer then return given
      let start ← line
      let hasStar := given.any fun parameter => parameter.1 = .others || parameter.1 = .named
      let mut parameter : ScriptParameter := (.plain, [], none, none)
      if given.any fun other => other.1 = .otherNames then
        fail "arguments cannot follow var-keyword argument" start
      if ← symbol "**" then
        let found ← name
        let note ← noteOf fuel annotated
        if ← atSymbol "=" then
          fail "var-keyword argument cannot have default value" start
        parameter := (.otherNames, found, none, note)
      else if ← symbol "*" then
        if hasStar then fail "* argument may appear only once" start
        if ← atSymbol "," then
          let behind ← lookAhead do
            needSymbol ","
            if (← atKind closer) || (← atSymbol "**") then return true
            return false
          match behind with
          | some (true, _) => fail "named arguments must follow bare *" start
          | _ => parameter := (.named, [], none, none)
        else if ← atKind closer then fail "named arguments must follow bare *" start
        else
          let found ← name
          let note ← noteOf fuel annotated
          if ← atSymbol "=" then
            fail "var-positional argument cannot have default value" start
          parameter := (.others, found, none, note)
      else if ← symbol "/" then
        if given.isEmpty then refuse
        if given.any fun other => other.1 = .placed then fail "/ may appear only once" start
        parameter := (.placed, [], none, none)
      else
        if ← atSymbol "(" then
          let behind ← lookAhead do
            needSymbol "("
            let _ ← name
            needSymbol ")"
          if behind.isSome then
            fail (if annotated then "Function parameters cannot be parenthesized"
              else "Lambda expression parameters cannot be parenthesized") start
        let found ← name
        let note ← noteOf fuel annotated
        let equals ← line
        let hasStandard ← symbol "="
        if hasStandard && ((← atSymbol ")") || (← atSymbol ",")) then
          fail "expected default value expression" equals
        let standard ← if hasStandard then (do return some (← expression fuel)) else pure none
        let hasDefault := given.any fun other =>
          (other.1 = .plain || other.1 = .placed) && other.2.2.1.isSome
        if standard.isNone && hasDefault && !hasStar then
          fail "non-default argument follows default argument" start
        parameter := (if hasStar then .named else .plain, found, standard, note)
      let before := if parameter.1 = .placed then given.map placedBefore else given
      if ← symbol "," then parametersBehind fuel closer annotated (before ++ [parameter])
      else return before ++ [parameter]
termination_by structural fuel => fuel

/-- The note on a parameter, if there can be one and it is there. -/
def noteOf : Nat → Bool → ScriptReader (Option ScriptExpression)
  | 0, _ => refuse
  | fuel + 1, annotated => do
      if annotated then
        if ← symbol ":" then return some (← expression fuel)
      return none
termination_by structural fuel => fuel

end

end ScriptReader

end EventForge
