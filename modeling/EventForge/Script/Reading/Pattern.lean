import EventForge.Script.Reading.Expression

/-!
# Reading patterns of scripts

A pattern is a constant, a name that takes a value, a dotted name whose value must be equal, or is
made of patterns for the parts of a value.  No pattern takes two values under one name.
-/

namespace EventForge

namespace ScriptPattern

mutual

/-- The names that take values. -/
def names : ScriptPattern → List Text
  | .wildcard | .equal _ | .same _ | .rest none => []
  | .capture name | .rest (some name) => [name]
  | .sequence items => namesIn items
  | .mapping entries further => namesOfEntries entries ++ further.toList
  | .instanceOf _ items fields => namesIn items ++ namesOfFields fields
  | .either options =>
      match options with
      | [] => []
      | first :: _ => names first
  | .named pattern name => names pattern ++ [name]
termination_by structural pattern => pattern

def namesIn : List ScriptPattern → List Text
  | [] => []
  | first :: others => names first ++ namesIn others
termination_by structural items => items

def namesOfEntries : List (ScriptExpression × ScriptPattern) → List Text
  | [] => []
  | (_, pattern) :: others => names pattern ++ namesOfEntries others
termination_by structural entries => entries

def namesOfFields : List (Text × ScriptPattern) → List Text
  | [] => []
  | (_, pattern) :: others => names pattern ++ namesOfFields others
termination_by structural fields => fields

end

/-- Whether a pattern takes every value: why no pattern can stand behind it. -/
def unconditional? : ScriptPattern → Option Text
  | .wildcard => some "wildcard"
  | .capture name => some (("name capture " : Text) ++ Quoted.ofText name)
  | .named pattern _ => unconditional? pattern
  | .either options =>
      match options.getLast? with
      | some .wildcard => some "wildcard"
      | some (.capture name) => some (("name capture " : Text) ++ Quoted.ofText name)
      | _ => none
  | _ => none

/-- Why no pattern can stand behind one of some options. -/
def unreachable? : List ScriptPattern → Option Text
  | [] | [_] => none
  | first :: others =>
      match unconditional? first with
      | some what => some (what ++ " makes remaining patterns unreachable")
      | none => unreachable? others

def isRest : ScriptPattern → Bool
  | .rest _ => true
  | _ => false

end ScriptPattern

namespace ScriptReader

/-- Dotted names behind a first one. -/
def dottedValue : Nat → ScriptExpression → ScriptReader ScriptExpression
  | 0, _ => refuse
  | fuel + 1, value => do
      if ← symbol "." then dottedValue fuel (.attribute value (← name)) else return value

/-- A number that may have a sign, or the sum of a real and an imaginary one. -/
def signedNumber (fuel : Nat) : ScriptReader ScriptExpression := do
  let sign ← symbol "-"
  match (← head).kind with
  | .number written =>
      let _ ← take
      let first := numberValue written
      let first := if sign then .unary .minus first else first
      for mark in [("+" : Text), "-"] do
        if ← symbol mark then return .binary mark first (← atom fuel)
      return first
  | _ => refuse

/-- A constant that stands as a pattern or as a key of one. -/
def constantValue? (fuel : Nat) : ScriptReader (Option ScriptExpression) := do
  match (← head).kind with
  | .number _ => return some (← signedNumber fuel)
  | .symbol mark =>
      if mark = ("-" : Text) then return some (← signedNumber fuel)
      return none
  | .string _ _ =>
      let start ← line
      let found ← texts fuel none []
      match found with
      | .formatted _ =>
          fail "patterns may only match literals and attribute lookups" start
      | found => return some found
  | .word found =>
      if ["None", "True", "False"].any fun word => Text.ofString word = found then
        return some (← atom fuel)
      return none
  | _ => return none

/-- Notes that some names take more than one value. -/
def checkNames (start : Nat) (names : List Text) : ScriptReader Unit := do
  match repeatedNames names with
  | name :: _ =>
      note .flow (("multiple assignments to name " : Text) ++ Quoted.ofText name ++
        " in pattern") start
  | [] => return ()

/-- Notes that a sequence has several patterns for the members that no other takes. -/
def checkRests (start : Nat) (items : List ScriptPattern) : ScriptReader Unit := do
  if 1 < (items.filter ScriptPattern.isRest).length then
    note .flow "multiple starred expressions in sequence pattern" start

mutual

/-- A pattern with a name for what it takes, or without. -/
def pattern : Nat → ScriptReader ScriptPattern
  | 0 => refuse
  | fuel + 1 => do
      let start ← line
      let first ← closedPattern fuel
      let others ← optionsBehind fuel
      let found := if others.isEmpty then first else .either (first :: others)
      if !others.isEmpty then
        match ScriptPattern.unreachable? (first :: others) with
        | some reason => note .flow reason start
        | none =>
            let names := Text.sort first.names
            if others.any fun other => Text.sort other.names ≠ names then
              note .flow "alternative patterns bind different names" start
      if ← word "as" then
        let place ← line
        match nameOf? (← head) with
        | some given =>
            if given = ("_" : Text) then fail "cannot use '_' as a target" place
            return .named found (← name)
        | none => fail "invalid pattern target" place
      return found
termination_by structural fuel => fuel

/-- The further options behind the first one. -/
def optionsBehind : Nat → ScriptReader (List ScriptPattern)
  | 0 => refuse
  | fuel + 1 => do
      if ← symbol "|" then
        let first ← closedPattern fuel
        return first :: (← optionsBehind fuel)
      return []
termination_by structural fuel => fuel

/-- A pattern without options around it. -/
def closedPattern : Nat → ScriptReader ScriptPattern
  | 0 => refuse
  | fuel + 1 => do
      match ← constantValue? fuel with
      | some (.constant .null) => return .same .null
      | some (.constant (.bool value)) => return .same (.bool value)
      | some value => return .equal value
      | none => pure ()
      let start ← line
      if ← symbol "(" then
        if ← symbol ")" then return .sequence []
        let first ← memberPattern fuel
        if (← atSymbol ")") && !first.isRest then
          let _ ← take
          return first
        if !(← symbol ",") then refuse
        let items := first :: (← memberPatterns fuel ")")
        needSymbol ")"
        checkRests start items
        return .sequence items
      if ← symbol "[" then
        let items ← memberPatterns fuel "]"
        needSymbol "]"
        checkRests start items
        return .sequence items
      if ← symbol "\x7b" then
        let (entries, rest) ← entryPatterns fuel
        needSymbol "\x7d"
        return .mapping entries rest
      let first ← name
      let value ← dottedValue fuel (.name first)
      if ← symbol "(" then
        let (items, fields) ← partPatterns fuel []
        needSymbol ")"
        match repeatedNames (fields.map fun field => field.1) with
        | repeated :: _ =>
            note .flow (("attribute name repeated in class pattern: " : Text) ++ repeated) start
        | [] => pure ()
        return .instanceOf value items fields
      match value with
      | .name found => return if found = ("_" : Text) then .wildcard else .capture found
      | value => return .equal value
termination_by structural fuel => fuel

/-- A pattern for one member of a sequence, or for those that no other takes. -/
def memberPattern : Nat → ScriptReader ScriptPattern
  | 0 => refuse
  | fuel + 1 => do
      if ← symbol "*" then
        let found ← name
        return .rest (if found = ("_" : Text) then none else some found)
      pattern fuel
termination_by structural fuel => fuel

/-- Patterns for the members of a sequence up to its end. -/
def memberPatterns : Nat → Text → ScriptReader (List ScriptPattern)
  | 0, _ => refuse
  | fuel + 1, closer => do
      if ← atSymbol closer then return []
      let first ← memberPattern fuel
      if ← symbol "," then return first :: (← memberPatterns fuel closer)
      return [first]
termination_by structural fuel => fuel

/-- Patterns for the entries of a mapping up to its end, and the name for the other entries. -/
def entryPatterns : Nat →
    ScriptReader (List (ScriptExpression × ScriptPattern) × Option Text)
  | 0 => refuse
  | fuel + 1 => do
      if ← atSymbol "\x7d" then return ([], none)
      if ← symbol "**" then
        let found ← name
        let _ ← symbol ","
        return ([], some found)
      let key ←
        match ← constantValue? fuel with
        | some key => pure key
        | none =>
            let first ← name
            if !(← atSymbol ".") then refuse
            dottedValue fuel (.name first)
      needSymbol ":"
      let value ← pattern fuel
      if ← symbol "," then
        let (others, rest) ← entryPatterns fuel
        return ((key, value) :: others, rest)
      return ([(key, value)], none)
termination_by structural fuel => fuel

/-- Patterns for the parts of an instance up to their end, behind those with names. -/
def partPatterns : Nat → List (Text × ScriptPattern) →
    ScriptReader (List ScriptPattern × List (Text × ScriptPattern))
  | 0, _ => refuse
  | fuel + 1, fields => do
      if ← atSymbol ")" then return ([], fields)
      let start ← line
      let named ← lookAhead do
        let found ← name
        needSymbol "="
        return found
      match named with
      | some (found, behind) =>
          set behind
          let value ← pattern fuel
          let fields := fields ++ [(found, value)]
          if ← symbol "," then partPatterns fuel fields else return ([], fields)
      | none =>
          if !fields.isEmpty then fail "positional patterns follow keyword patterns" start
          let first ← pattern fuel
          if ← symbol "," then
            let (items, fields) ← partPatterns fuel fields
            return (first :: items, fields)
          return ([first], fields)
termination_by structural fuel => fuel

end

/-- The pattern of a case, which may be a sequence without brackets. -/
def casePattern (fuel : Nat) : ScriptReader ScriptPattern := do
  let start ← line
  let first ← memberPattern fuel
  let found ←
    if ← symbol "," then
      let items := first :: (← (do
        if (← atSymbol ":") || (← atWord "if") then return [] else openPatterns fuel))
      checkRests start items
      pure (.sequence items)
    else if first.isRest then refuse
    else pure first
  checkNames start found.names
  return found
where
  /-- Patterns with commas between them, up to where none follows. -/
  openPatterns : Nat → ScriptReader (List ScriptPattern)
    | 0 => refuse
    | fuel + 1 => do
        let first ← memberPattern fuel
        if ← symbol "," then
          if (← atSymbol ":") || (← atWord "if") then return [first]
          return first :: (← openPatterns fuel)
        return [first]

end ScriptReader

end EventForge
