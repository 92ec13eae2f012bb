import EventForge.Script.FrameName

/-!
# Matching values with patterns

A pattern holds for a value, or does not.  Where it holds, it binds names to the value and to parts of
it; where it does not, no name is bound.
-/

namespace EventForge

namespace ScriptRun

/-- Names with the values that they are to be bound to. -/
abbrev Captures := List (NameUse × ScriptValue)

/-- The value that a pattern compares with. -/
def patternValue (frame : ScriptFrame) : PatternValue → ScriptRun ScriptValue
  | .constant value => return value
  | .path use attributes => do attributes.foldlM attributeOf (← readName frame use)

/-- The members of a value that can be matched one by one. -/
def sequenceItems? (value : ScriptValue) : ScriptRun (Option (List ScriptValue)) := do
  let content ← contentOf value
  match content with
  | .tuple items => return some items
  | .range start stop step => return some (ScriptValue.rangeItems start stop step)
  | content => list? content

/-- Kinds whose values are matched as a whole by a single pattern inside. -/
def wholeKinds : List String := [
  "bool", "bytearray", "bytes", "dict", "float", "frozenset", "int", "list", "set", "str", "tuple"]

/-- Whether a pattern stands for any number of members. -/
def isRest : CodePattern → Bool
  | .rest _ => true
  | _ => false

/-- The attributes that the members of a pattern for a kind stand for. -/
def memberNames (kind : ScriptValue) (count : Nat) : ScriptRun (List Text) := do
  match ← attribute? kind "__match_args__" with
  | some (.tuple names) =>
      if names.length < count then
        refuseType ((← nameOfKind kind) ++ "() accepts " ++ counted names.length
          "positional sub-pattern" ++ " (" ++ Text.ofNat count ++ " given)")
      (names.take count).mapM shownText
  | _ =>
      refuseType ((← nameOfKind kind) ++ "() accepts 0 positional sub-patterns (" ++
        Text.ofNat count ++ " given)")

mutual

/-- What a pattern binds for a value, if it holds. -/
def matchPattern (frame : ScriptFrame) (value : ScriptValue) :
    CodePattern → ScriptRun (Option Captures)
  | .wildcard => return some []
  | .capture use => return some [(use, value)]
  | .equal expected => do
      let found ← isTrue (← compareValues .equal value (← patternValue frame expected))
      return if found then some [] else none
  | .same expected => return if value.same expected then some [] else none
  | .sequence items => do
      match ← sequenceItems? value with
      | none => return none
      | some values =>
          let before := items.takeWhile fun item => !isRest item
          if before.length = items.length then
            if values.length ≠ items.length then return none
            matchAll frame values items
          else
            let behind := items.length - before.length - 1
            if values.length < before.length + behind then return none
            let middle := values.length - before.length - behind
            let rest ← newList ((values.drop before.length).take middle)
            matchAll frame
              (values.take before.length ++ rest :: values.drop (before.length + middle)) items
  | .rest none => return some []
  | .rest (some use) => return some [(use, value)]
  | .mapping entries further => do
      match ← entries? (← contentOf value) with
      | none => return none
      | some found =>
          match ← matchEntries frame found entries with
          | none => return none
          | some captures =>
              match further with
              | none => return some captures
              | some use =>
                  let keys ← entries.mapM fun entry => patternValue frame entry.1
                  let left ← found.toList.filterM fun entry => do
                    return !(← keys.anyM (alike entry.1))
                  return some (captures ++ [(use, ← newMapping left)])
  | .instanceOf kind items fields => do
      let kind ← patternValue frame kind
      if !(← isKind kind) then
        if kind.isUnknown then return none
        refuseType "called match pattern must be a class"
      if !(← isInstanceOf maxNesting value kind) then return none
      let isWhole ← do
        let order ← orderOf kind
        pure (order.any fun other =>
          match other with
          | .kind name => wholeKinds.contains name
          | _ => false)
      let inner ←
        if items.isEmpty then pure (some [])
        else if isWhole && items.length = 1 then matchAll frame [value] items
        else
          let names ← memberNames kind items.length
          let values ← names.mapM (attribute? value)
          match values.mapM id with
          | some values => matchAll frame values items
          | none => pure none
      match inner with
      | none => return none
      | some captures =>
          match ← matchFields frame value fields with
          | some others => return some (captures ++ others)
          | none => return none
  | .either options => matchFirst frame value options
  | .named pattern use => do
      match ← matchPattern frame value pattern with
      | some captures => return some (captures ++ [(use, value)])
      | none => return none
termination_by structural pattern => pattern

/-- What patterns bind for values, if all of them hold. -/
def matchAll (frame : ScriptFrame) : List ScriptValue → List CodePattern →
    ScriptRun (Option Captures)
  | values, pattern :: patterns => do
      match values with
      | [] => return none
      | value :: values =>
          match ← matchPattern frame value pattern with
          | none => return none
          | some captures =>
              match ← matchAll frame values patterns with
              | some others => return some (captures ++ others)
              | none => return none
  | _, [] => return some []
termination_by structural _ patterns => patterns

/-- What the first pattern that holds binds for a value. -/
def matchFirst (frame : ScriptFrame) (value : ScriptValue) :
    List CodePattern → ScriptRun (Option Captures)
  | [] => return none
  | pattern :: patterns => do
      match ← matchPattern frame value pattern with
      | some captures => return some captures
      | none => matchFirst frame value patterns
termination_by structural patterns => patterns

/-- What patterns bind for the values under some keys, if all of them hold. -/
def matchEntries (frame : ScriptFrame) (found : Array (ScriptValue × ScriptValue)) :
    List (PatternValue × CodePattern) → ScriptRun (Option Captures)
  | [] => return some []
  | (key, pattern) :: entries => do
      match (← findEntry (← patternValue frame key) found).bind (found[·]?) with
      | none => return none
      | some entry =>
          match ← matchPattern frame entry.2 pattern with
          | none => return none
          | some captures =>
              match ← matchEntries frame found entries with
              | some others => return some (captures ++ others)
              | none => return none
termination_by structural entries => entries

/-- What patterns bind for attributes of a value, if all of them hold. -/
def matchFields (frame : ScriptFrame) (value : ScriptValue) :
    List (Text × CodePattern) → ScriptRun (Option Captures)
  | [] => return some []
  | (name, pattern) :: fields => do
      match ← attribute? value name with
      | none => return none
      | some content =>
          match ← matchPattern frame content pattern with
          | none => return none
          | some captures =>
              match ← matchFields frame value fields with
              | some others => return some (captures ++ others)
              | none => return none
termination_by structural fields => fields

end

/-- Whether a pattern holds for a value, whose names it binds then. -/
def bindMatch (frame : ScriptFrame) (value : ScriptValue) (pattern : CodePattern) :
    ScriptRun Bool := do
  match ← matchPattern frame value pattern with
  | none => return false
  | some captures =>
      captures.forM fun capture => writeName frame capture.1 capture.2
      return true

end ScriptRun

end EventForge
