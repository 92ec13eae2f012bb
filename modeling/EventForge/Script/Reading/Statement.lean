import EventForge.Script.Reading.Pattern

/-!
# Reading statements of scripts

A line holds statements with semicolons between them, or opens a statement that holds a block: more
statements on the same line, or on lines that are indented more deeply.
-/

namespace EventForge

namespace ScriptReader

/-- Marks of updates. -/
def updateMarks : List Text := List.map Text.ofString [
  "+=", "-=", "*=", "/=", "//=", "%=", "@=", "&=", "|=", "^=", "<<=", ">>=", "**="]

/-- Forms of the language that a script can ask for. -/
def knownFeatures : List Text := List.map Text.ofString [
  "nested_scopes", "generators", "division", "absolute_import", "with_statement",
  "print_function", "unicode_literals", "barry_as_FLUFL", "generator_stop", "annotations"]

/-- Takes the colon in front of a block, where a line end is told as its absence. -/
def colon : ScriptReader Unit := do
  if ← atKind .lineEnd then fail "expected ':'" (← line)
  needSymbol ":"

/-- Takes a symbol whose absence is told. -/
def demand (mark : Text) : ScriptReader Unit := do
  if !(← symbol mark) then
    fail (("expected '" : Text) ++ mark ++ "'") (← line)

/-- The note on what a function gives back.  An arrow without a note stays where it is. -/
def givenBack (fuel : Nat) : ScriptReader (Option ScriptExpression) := do
  let found ← lookAhead do
    needSymbol "->"
    expression fuel
  match found with
  | some (note, behind) =>
      set behind
      return some note
  | none => return none

/-- Names with points between them. -/
def dotted : Nat → ScriptReader Text
  | 0 => refuse
  | fuel + 1 => do
      let first ← name
      if ← symbol "." then return first ++ "." ++ (← dotted fuel)
      return first

/-- Another name, if there is one. -/
def otherName : ScriptReader (Option Text) := do
  if ← word "as" then return some (← name)
  return none

/-- Modules with commas between them. -/
def modules : Nat → ScriptReader (List ImportedName)
  | 0 => refuse
  | fuel + 1 => do
      let first ← dotted fuel
      let other ← otherName
      if ← symbol "," then return (first, other) :: (← modules fuel)
      return [(first, other)]

/-- Names to import with commas between them.  In parentheses a comma can stand behind them. -/
def imported : Nat → Bool → ScriptReader (List ImportedName)
  | 0, _ => refuse
  | fuel + 1, enclosed => do
      let first ← name
      let other ← otherName
      if ← symbol "," then
        if enclosed then
          if ← atSymbol ")" then return [(first, other)]
        else if ← atKind .lineEnd then
          fail "trailing comma not allowed without surrounding parentheses" (← line)
        return (first, other) :: (← imported fuel enclosed)
      return [(first, other)]

/-- How many points stand there. -/
def dots : Nat → ScriptReader Nat
  | 0 => refuse
  | fuel + 1 => do
      if ← symbol "." then return 1 + (← dots fuel)
      if ← symbol "..." then return 3 + (← dots fuel)
      return 0

/-- Notes what is wrong with asking for forms of the language. -/
def checkFeatures (start : Nat) (names : List ImportedName) : ScriptReader Unit := do
  if !(← get).isOpening then
    note .features "from __future__ imports must occur at the beginning of the file" start
  for (name, _) in names do
    if name = ("braces" : Text) then note .features "not a chance" start
    else if !knownFeatures.contains name then
      note .features (("future feature " : Text) ++ name ++ " is not defined") start

/-- An import behind `from`. -/
def importFrom (fuel start : Nat) : ScriptReader ScriptStatement := do
  let dots ← dots fuel
  let module ← if 0 < dots && (← atWord "import") then pure [] else dotted fuel
  needWord "import"
  if ← symbol "*" then
    if (← get).scope.inFunction then
      note .names "import * only allowed at module level" start
    return .importNames dots module none
  let enclosed ← symbol "("
  let names ← imported fuel enclosed
  if enclosed then needSymbol ")"
  if module = ("__future__" : Text) then checkFeatures start names
  return .importNames dots module (some names)

/-- Names with commas between them. -/
def names : Nat → ScriptReader (List Text)
  | 0 => refuse
  | fuel + 1 => do
      let first ← name
      if ← symbol "," then return first :: (← names fuel)
      return [first]

def isSingleTarget : ScriptExpression → Bool
  | .name _ | .attribute _ _ | .item _ _ => true
  | _ => false

/-- A value that is assigned. -/
def assigned (fuel : Nat) : ScriptReader ScriptExpression := do
  if ← atWord "yield" then yielding fuel else expressions fuel

/-- The statement for a note on a target. -/
def typedTarget (fuel start : Nat) (target : ScriptExpression) : ScriptReader ScriptStatement := do
  if !isSingleTarget target then
    let behind ← lookAhead do
      needSymbol ":"
      expression fuel
    if behind.isNone then refuse
    match target with
    | .tuple _ | .list _ =>
        fail (("only single target (not " : Text) ++ target.description ++
          ") can be annotated") start
    | _ => fail "illegal target for annotation" start
  needSymbol ":"
  let kind ← expression fuel
  let value ← if ← symbol "=" then (do return some (← assigned fuel)) else pure none
  return .typed target kind value

/-- Notes stars on targets that cannot stand there: one on a target alone, and several in one list
of targets. -/
def noteStars (start : Nat) (target : ScriptExpression) : ScriptReader Unit := do
  match target with
  | .starred _ => note .flow "starred assignment target must be in a list or tuple" start
  | .tuple items | .list items =>
      let stars := items.filter fun item =>
        match item with
        | .starred _ => true
        | _ => false
      if 1 < stars.length then
        note .flow "multiple starred expressions in assignment" start
  | _ => return ()

/-- Assignments of one value to targets, of which some are given. -/
def assignmentBehind : Nat → Nat → List ScriptExpression → ScriptReader ScriptStatement
  | 0, _, _ => refuse
  | fuel + 1, start, targets => do
      let value ← assigned fuel
      if ← atSymbol "=" then
        match value, value.unassignable? false with
        | .suspended _ _, _ => fail "assignment to yield expression not possible" start
        | _, some part => fail (("cannot assign to " : Text) ++ part.description) start
        | _, none =>
            let _ ← take
            noteStars start value
            assignmentBehind fuel start (targets ++ [value])
      else return .assignment targets value

/-- An expression, an assignment or an update. -/
def valueStatement (fuel : Nat) : ScriptReader ScriptStatement := do
  let start ← line
  if ← atWord "yield" then
    let value ← yielding fuel
    if ← atSymbol "=" then fail "assignment to yield expression not possible" start
    return .expression value
  let first ← starExpression fuel
  let (others, closed) ← itemsBehind fuel .value
  let value := if others.isEmpty && !closed then first else .tuple (first :: others)
  let next ← head
  if next.kind = .symbol ":" then typedTarget fuel start value
  else if next.kind = .symbol "=" then
    match value.unassignable? false with
    | some part =>
        if !closed then refuseTarget fuel start ((first :: others).getLastD first)
        fail (("cannot assign to " : Text) ++ part.description) start
    | none =>
        let _ ← take
        noteStars start value
        assignmentBehind fuel start [value]
  else
    match next.kind with
    | .symbol mark =>
        if !updateMarks.contains mark then return .expression value
        let _ ← take
        if !isSingleTarget value then
          if (← lookAhead (assigned fuel)).isNone then refuse
          fail (("'" : Text) ++ value.description ++
            "' is an illegal expression for augmented assignment") start
        return .update value mark.dropLast (← assigned fuel)
    | _ =>
        match value with
        | .starred _ => note .flow "can't use starred expression here" start
        | _ => pure ()
        return .expression value

/-- The targets that a statement removes. -/
def removal (fuel : Nat) : ScriptReader ScriptStatement := do
  let start ← line
  let first ← starExpression fuel
  let (others, _) ← itemsBehind fuel .value
  match ScriptExpression.unassignableIn? true (first :: others) with
  | some part => fail (("cannot delete " : Text) ++ part.description) start
  | none => return .removal (first :: others)

/-- An expression, if one stands there. -/
def expression? (fuel : Nat) : ScriptReader (Option ScriptExpression) := do
  if begins (← head) then return some (← expression fuel)
  return none

/-- A statement that holds no others. -/
def simple (fuel : Nat) : ScriptReader ScriptStatement := do
  let start ← line
  let scope := (← get).scope
  if ← word "pass" then return .pass
  if ← word "break" then
    if !scope.inLoop then note .flow "'break' outside loop" start
    return .breakLoop
  if ← word "continue" then
    if !scope.inLoop then note .flow "'continue' not properly in loop" start
    return .continueLoop
  if ← word "return" then
    if !scope.inFunction then note .flow "'return' outside function" start
    let next ← head
    if begins next || next.kind = .symbol "*" then
      return .giveBack (some (← expressions fuel))
    return .giveBack none
  if ← word "raise" then
    match ← expression? fuel with
    | none => return .raising none none
    | some value =>
        if ← word "from" then return .raising (some value) (some (← expression fuel))
        return .raising (some value) none
  if ← word "global" then return .globalNames (← names fuel)
  if ← word "nonlocal" then
    if !scope.inFunction then
      note .names "nonlocal declaration not allowed at module level" start
    return .outerNames (← names fuel)
  if ← word "del" then return ← removal fuel
  if ← word "assert" then
    let condition ← expression fuel
    if ← symbol "," then return .assertion condition (some (← expression fuel))
    return .assertion condition none
  if ← word "import" then return .importModules (← modules fuel)
  if ← word "from" then return ← importFrom fuel start
  valueStatement fuel

/-- Statements with semicolons between them, to the end of the line. -/
def simples : Nat → ScriptReader (List ScriptStatement)
  | 0 => refuse
  | fuel + 1 => do
      let first ← simple fuel
      if ← kind .lineEnd then return [first]
      needSymbol ";"
      if ← kind .lineEnd then return [first]
      return first :: (← simples fuel)

/-- Whether a statement keeps a script at its beginning, where it can ask for forms of the
language. -/
def keepsOpening (isFirst : Bool) : ScriptStatement → Bool
  | .expression (.constant (.text _)) => isFirst
  | .importNames 0 module _ => module = ("__future__" : Text)
  | _ => false

/-- A thing to enter, and what it is bound to. -/
def withItem (fuel : Nat) : ScriptReader (ScriptExpression × Option ScriptExpression) := do
  let value ← expression fuel
  if ← word "as" then
    let start ← line
    let target ← target fuel
    match target.unassignable? false with
    | some part => fail (("cannot assign to " : Text) ++ part.description) start
    | none => return (value, some target)
  return (value, none)

def withItems : Nat → Bool → ScriptReader (List (ScriptExpression × Option ScriptExpression))
  | 0, _ => refuse
  | fuel + 1, enclosed => do
      let first ← withItem fuel
      if ← symbol "," then
        if enclosed then
          if ← atSymbol ")" then return [first]
        return first :: (← withItems fuel enclosed)
      return [first]

/-- The things to enter, with parentheses around them or without, and the colon behind them. -/
def withHead (fuel : Nat) : ScriptReader (List (ScriptExpression × Option ScriptExpression)) := do
  let enclosed : ScriptReader (List (ScriptExpression × Option ScriptExpression)) := do
    needSymbol "("
    let items ← withItems fuel true
    needSymbol ")"
    needSymbol ":"
    return items
  if ← atSymbol "(" then
    if ← canRead enclosed then return ← enclosed
  let items ← withItems fuel false
  colon
  return items

/-- Refuses the absence of a block behind an opening. -/
def refuseAbsence {Value : Type} (opening : Text) (start : Nat) : ScriptReader Value := do
  failWith (.indentation (("expected an indented block after " : Text) ++ opening ++
    " on line " ++ Text.ofNat start) (← line))

/-- What is compared with the patterns of cases: an expression, or several with commas. -/
def subject (fuel : Nat) : ScriptReader ScriptExpression := do
  let first ← item fuel
  let (others, closed) ← itemsBehind fuel .named
  if others.isEmpty && !closed then
    match first with
    | .starred _ => refuse
    | first => return first
  return .tuple (first :: others)

/-- Whether a statement with cases begins here: its opening is followed by a colon and a line
end. -/
def atCases (fuel : Nat) : ScriptReader Bool := do
  if !(← atWord "match") then return false
  let start ← line
  let behind ← lookAhead do
    needWord "match"
    let _ ← subject fuel
    if ← kind .lineEnd then return false
    needSymbol ":"
    need .lineEnd
    return true
  match behind with
  | some (true, _) => return true
  | some (false, _) =>
      if ← canRead (valueStatement fuel) then return false
      fail "expected ':'" start
  | none => return false

mutual

/-- Statements up to the end of a block or script. -/
def statements : Nat → ScriptReader (List ScriptStatement)
  | 0 => refuse
  | fuel + 1 => do
      if (← atKind .finish) || (← atKind .dedent) then return []
      let first ← statement fuel
      let isFirst := (← get).isFirst
      if !first.all (keepsOpening isFirst) then
        modify fun state => { state with isOpening := false }
      modify fun state => { state with isFirst := false }
      return first ++ (← statements fuel)
termination_by structural fuel => fuel

/-- A block behind its colon. -/
def block : Nat → Text → Nat → ScriptReader (List ScriptStatement)
  | 0, _, _ => refuse
  | fuel + 1, opening, start => do
      if !(← kind .lineEnd) then return ← simples fuel
      if !(← kind .indent) then refuseAbsence opening start
      let first ← statement fuel
      let found ← statements fuel
      need .dedent
      return first ++ found
termination_by structural fuel => fuel

/-- The block behind `else`, if it is there. -/
def otherwise : Nat → ScriptReader (List ScriptStatement)
  | 0 => refuse
  | fuel + 1 => do
      let start ← line
      if ← word "else" then
        demand ":"
        block fuel "'else' statement" start
      else return []
termination_by structural fuel => fuel

/-- What stands behind `if` or `elif`. -/
def branch : Nat → Text → Nat → ScriptReader ScriptStatement
  | 0, _, _ => refuse
  | fuel + 1, opening, start => do
      let test ← namedExpression fuel
      colon
      let body ← block fuel opening start
      let next ← line
      if ← word "elif" then
        return .condition test body [← branch fuel "'elif' statement" next]
      return .condition test body (← otherwise fuel)
termination_by structural fuel => fuel

/-- The handlers of faults behind a block, of which all are for groups of faults or none is. -/
def handlers : Nat → Option Bool →
    ScriptReader (List (Option ScriptExpression × Option Text × List ScriptStatement))
  | 0, _ => refuse
  | fuel + 1, others => do
      let start ← line
      if !(← word "except") then return []
      let isGroup ← symbol "*"
      if others = some (!isGroup) then
        fail "cannot have both 'except' and 'except*' on the same 'try'" (← line)
      if isGroup && ((← atSymbol ":") || (← atKind .lineEnd)) then
        fail "expected one or more exception types" (← line)
      let kinds ← expression? fuel
      if ← atSymbol "," then
        let behind ← lookAhead do
          needSymbol ","
          let _ ← expressions fuel
          let _ ← otherName
          needSymbol ":"
        if behind.isSome then fail "multiple exception types must be parenthesized" start
      let name ← if kinds.isSome then otherName else pure none
      colon
      let opening : Text := if isGroup then "'except*' statement" else "'except' statement"
      let body ← block fuel opening start
      let others ← handlers fuel (some isGroup)
      if kinds.isNone && !others.isEmpty then
        note .flow "default 'except:' must be last" start
      return (kinds, name, body) :: others
termination_by structural fuel => fuel

/-- What stands behind `try`. -/
def attempt : Nat → Nat → ScriptReader ScriptStatement
  | 0, _ => refuse
  | fuel + 1, start => do
      demand ":"
      let body ← block fuel "'try' statement" start
      if !(← atWord "except") && !(← atWord "finally") then
        fail "expected 'except' or 'finally' block" (← line)
      let isGrouped := (← lookAhead do
        let _ ← word "except"
        needSymbol "*").isSome
      let handlers ← handlers fuel none
      let other ← if handlers.isEmpty then pure [] else otherwise fuel
      let next ← line
      let final ←
        if ← word "finally" then
          demand ":"
          block fuel "'finally' statement" next
        else pure []
      return .attempt isGrouped body handlers other final
termination_by structural fuel => fuel

/-- What stands behind `for`. -/
def forLoop : Nat → Nat → Bool → ScriptReader ScriptStatement
  | 0, _, _ => refuse
  | fuel + 1, start, isAsync => do
      let target ← sourceTargets fuel
      let source ← expressions fuel
      colon
      let body ← within (fun scope => { scope with inLoop := true })
        (block fuel "'for' statement" start)
      return .forLoop isAsync target source body (← otherwise fuel)
termination_by structural fuel => fuel

/-- What stands behind `with`. -/
def withBlock : Nat → Nat → Bool → ScriptReader ScriptStatement
  | 0, _, _ => refuse
  | fuel + 1, start, isAsync => do
      let items ← withHead fuel
      return .within isAsync items (← block fuel "'with' statement" start)
termination_by structural fuel => fuel

/-- What stands behind `def`. -/
def function : Nat → Nat → Bool → List ScriptExpression → ScriptReader ScriptStatement
  | 0, _, _, _ => refuse
  | fuel + 1, start, isAsync, decorators => do
      let name ← name
      demand "("
      let parameters ← parameters fuel (.symbol ")") true
      needSymbol ")"
      let note ← if ← atSymbol "->" then givenBack fuel else pure none
      demand ":"
      let body ← within (fun _ => { inFunction := true, isAsync })
        (block fuel "function definition" start)
      return .function isAsync name parameters note body decorators
termination_by structural fuel => fuel

/-- What stands behind `class`. -/
def classBlock : Nat → Nat → List ScriptExpression → ScriptReader ScriptStatement
  | 0, _, _ => refuse
  | fuel + 1, start, decorators => do
      let name ← name
      let given ←
        if ← symbol "(" then
          let given ← arguments fuel []
          needSymbol ")"
          pure given
        else pure []
      colon
      let body ← within (fun _ => {}) (block fuel "class definition" start)
      return .classOf name given body decorators
termination_by structural fuel => fuel

/-- A function or class behind decorators. -/
def decorated : Nat → List ScriptExpression → ScriptReader ScriptStatement
  | 0, _ => refuse
  | fuel + 1, decorators => do
      if ← symbol "@" then
        let decorator ← namedExpression fuel
        need .lineEnd
        decorated fuel (decorators ++ [decorator])
      else
        let isAsync ← word "async"
        let start ← line
        if ← word "def" then function fuel start isAsync decorators
        else if isAsync then refuse
        else if ← word "class" then classBlock fuel start decorators
        else refuse
termination_by structural fuel => fuel

/-- What stands behind `async`. -/
def waiting : Nat → ScriptReader ScriptStatement
  | 0 => refuse
  | fuel + 1 => do
      let start ← line
      let isAsync := (← get).scope.isAsync
      if ← word "def" then function fuel start true []
      else if ← word "for" then
        if !isAsync then note .flow "'async for' outside async function" start
        forLoop fuel start true
      else if ← word "with" then
        if !isAsync then note .flow "'async with' outside async function" start
        withBlock fuel start true
      else refuse
termination_by structural fuel => fuel

/-- The cases of a statement up to the end of its block. -/
def cases : Nat →
    ScriptReader (List (ScriptPattern × Option ScriptExpression × List ScriptStatement))
  | 0 => refuse
  | fuel + 1 => do
      if ← kind .dedent then return []
      let start ← line
      needWord "case"
      let pattern ← casePattern fuel
      let guard ← if ← word "if" then (do return some (← namedExpression fuel)) else pure none
      colon
      let body ← block fuel "'case' statement" start
      let others ← cases fuel
      if guard.isNone && !others.isEmpty then
        match pattern.unconditional? with
        | some what => note .flow (what ++ " makes remaining patterns unreachable") start
        | none => pure ()
      return (pattern, guard, body) :: others
termination_by structural fuel => fuel

/-- A statement with what it holds, or the statements of a line. -/
def statement : Nat → ScriptReader (List ScriptStatement)
  | 0 => refuse
  | fuel + 1 => do
      let start ← line
      if ← atCases fuel then
        needWord "match"
        let subject ← subject fuel
        needSymbol ":"
        need .lineEnd
        if !(← kind .indent) then refuseAbsence "'match' statement" start
        if !(← atWord "case") then refuse
        return [.choose subject (← cases fuel)]
      if ← word "if" then return [← branch fuel "'if' statement" start]
      if ← word "while" then
        let test ← namedExpression fuel
        colon
        let body ← within (fun scope => { scope with inLoop := true })
          (block fuel "'while' statement" start)
        return [.whileLoop test body (← otherwise fuel)]
      if ← word "for" then return [← forLoop fuel start false]
      if ← word "try" then return [← attempt fuel start]
      if ← word "with" then return [← withBlock fuel start false]
      if ← word "def" then return [← function fuel start false []]
      if ← word "class" then return [← classBlock fuel start []]
      if ← atSymbol "@" then return [← decorated fuel []]
      if ← word "async" then return [← waiting fuel]
      simples fuel
termination_by structural fuel => fuel

end

/-- The statements of a script. -/
def script (fuel : Nat) : ScriptReader (List ScriptStatement) := do
  let found ← statements fuel
  need .finish
  return found

end ScriptReader

namespace Script

/-- The statements that a text holds.  A text with a broken token holds none, wherever the grammar
breaks. -/
def ofText (text : Text) : Except ScriptError (List ScriptStatement) :=
  if text.contains (0 : CodePoint) then .error .nullCharacter
  else
    let tokens := ScriptToken.ofText text
    match (ScriptReader.script (32 * (tokens.length + 4))).run (ScriptReader.start tokens {}) with
    | .error stop => .error (ScriptReader.stopError stop)
    | .ok (statements, state) =>
        match ScriptToken.brokenError? tokens <|> ScriptReader.firstNote? state.notes with
        | some error => .error error
        | none => .ok statements

end Script

end EventForge
