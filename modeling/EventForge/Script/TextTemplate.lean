import EventForge.Script.Arithmetic
import EventForge.Script.Format
import EventForge.Script.Item

/-!
# Templates of texts

A template is a text with places for values.  The places are marked either by percent signs or by
braces.
-/

namespace EventForge

/-- A place for a value behind a percent sign. -/
structure PercentPlace where
  /-- The key of the value in a mapping. -/
  key : Option Text := none
  flags : Text := []
  width : Option Nat := none
  precision : Option Nat := none
  form : CodePoint := 's'
deriving DecidableEq, Repr, Inhabited

namespace PercentPlace

def has (place : PercentPlace) (flag : CodePoint) : Bool := place.flags.contains flag

/-- The format that a place asks for. -/
def format (place : PercentPlace) (isNumber : Bool) : ValueFormat :=
  let left := place.has '-'
  let zeros := place.has '0' && isNumber && !left
  { fill := if zeros then '0' else ' '
    align := some (if left then '<' else if zeros then '=' else '>')
    sign := if place.has '+' then some '+' else if place.has ' ' then some ' ' else none
    alternate := place.has '#'
    width := place.width.getD 0
    precision := place.precision
    form := some place.form }

end PercentPlace

namespace ScriptRun

/-- The values that a template takes one after the other. -/
structure TemplateValues where
  values : List ScriptValue
  /-- The mapping for places with keys. -/
  mapping : Option ScriptValue := none
  /-- Whether values may be left. -/
  isTaken : Bool := false
deriving Inhabited

def takeValue (values : TemplateValues) : ScriptRun (ScriptValue × TemplateValues) := do
  match values.values with
  | value :: rest => return (value, { values with values := rest })
  | [] => refuseType "not enough arguments for format string"

/-- The key up to its closing bracket, and what stands behind it. -/
def takeKey (depth : Nat) : Text → Option (Text × Text)
  | [] => none
  | point :: rest =>
      if point = ')' && depth = 0 then some ([], rest)
      else
        let depth := if point = '(' then depth + 1 else if point = ')' then depth - 1 else depth
        (takeKey depth rest).map fun found => (point :: found.1, found.2)

/-- A number in a place, or the value that a star stands for. -/
def takeSize (values : TemplateValues) (rest : Text) :
    ScriptRun (Option Int × TemplateValues × Text) := do
  match rest with
  | point :: rest =>
      if point = '*' then
        let (value, values) ← takeValue values
        match value.integer? with
        | some number => return (some number, values, rest)
        | none => refuseType "* wants int"
      let digits := (point :: rest).takeWhile CodePoint.isAsciiDigit
      if digits.isEmpty then return (none, values, point :: rest)
      if 15 < digits.length then refuseValue "width too big"
      return (some (Text.digitsValue digits), values, (point :: rest).drop digits.length)
  | [] => return (none, values, [])

/-- The number of a value for a place of an integer. -/
def integerFor (form : CodePoint) (value : ScriptValue) : ScriptRun (Option Int) := do
  let name : Text := "%" ++ [form] ++ " format: "
  let content ← contentOf value
  if content.isUnknown then return none
  if form = 'x' || form = 'X' || form = 'o' then
    match ← index? value with
    | some number => return some number
    | none => refuseType (name ++ "an integer is required, not " ++ (← kindName value))
  let refuseNumber : ScriptRun (Option Int) := do
    refuseType (name ++ "a real number is required, not " ++ (← kindName value))
  match content.quantity? with
  | some (.real number) => return some (← truncated number)
  | some (.whole number) => return some number
  | none =>
      if (← method? value "__int__").isSome || (← method? value "__index__").isSome then
        match ← toInteger value with
        | .integer number => return some number
        | _ => refuseNumber
      else refuseNumber

/-- A value in the form that a place asks for. -/
def filledPlace (place : PercentPlace) (value : ScriptValue) (position : Nat) :
    ScriptRun Text := do
  let form := place.form
  let texts : Text := "sra"
  let integers : Text := "diuxXo"
  let reals : Text := "eEfFgG"
  if texts.contains form then
    let shown ← if form = 's' then shownText value else displayText value
    let shown := if form = 'a' then asciiForm shown else shown
    let shown :=
      match place.precision with
      | some precision => shown.take precision
      | none => shown
    return (place.format false).pad '>' shown
  if form = 'c' then
    match ← contentOf value with
    | .text [point] => return (place.format false).pad '>' [point]
    | .unknown => return []
    | .text _ => refuseType "%c requires int or char"
    | _ =>
        match ← index? value with
        | some number =>
            if number < 0 || 0x110000 ≤ number then
              refuseOverflow "%c arg not in range(0x110000)"
            return (place.format false).pad '>' [CodePoint.ofNat number.toNat]
        | none => refuseType "%c requires int or char"
  if integers.contains form then
    match ← integerFor form value with
    | none => return []
    | some number =>
        let format := place.format true
        let base := if form = 'o' then 8 else if form = 'x' || form = 'X' then 16 else 10
        let mark : Text := if format.alternate && base ≠ 10 then "0" ++ [form] else []
        let digits := ValueFormat.digitsOf base number.natAbs
        let digits := if form = 'X' then ValueFormat.upperCase digits else digits
        let digits := DecimalPlaces.padded (place.precision.getD 0) digits
        return format.layOut (number < 0) mark digits [] 3
  if reals.contains form then
    match ← contentOf value with
    | .unknown => return []
    | _ =>
        match ← real? value with
        | none => refuseType (("must be real number, not " : Text) ++ (← kindName value))
        | some number => return ← ofFormat ((place.format true).showReal "float" number)
  refuseValue (("unsupported format character '" : Text) ++
    (if 0x1F < form.val && form.val < 0x7F then [form] else "?") ++ "' (0x" ++
    Text.ofString (String.ofList (Nat.toDigits 16 form.val)) ++ ") at index " ++
    Text.ofNat position)

/-- Fills the places behind percent signs.  The fuel bounds the length of the template. -/
def fillPercents (length : Nat) : Nat → TemplateValues → Text → ScriptRun (Text × TemplateValues)
  | 0, values, _ => return ([], values)
  | fuel + 1, values, template => do
      let plain := template.takeWhile fun (point : CodePoint) => point ≠ '%'
      match template.drop plain.length with
      | [] => return (plain, values)
      | _ :: rest =>
          if rest.head? = some '%' then
            let (tail, values) ← fillPercents length fuel values (rest.drop 1)
            return (plain ++ "%" ++ tail, values)
          let (key, rest) ←
            match rest with
            | point :: behind =>
                if point = '(' then
                  match values.mapping with
                  | none => refuseType "format requires a mapping"
                  | some _ =>
                      match takeKey 0 behind with
                      | some found => pure (some found.1, found.2)
                      | none => refuseValue "incomplete format key"
                else pure (none, rest)
            | [] => refuseValue "incomplete format"
          let values ←
            match key, values.mapping with
            | some key, some mapping => do
                let value ← itemAt mapping (.text key)
                pure { values with values := [value], isTaken := true }
            | _, _ => pure values
          let flags := rest.takeWhile fun (point : CodePoint) =>
            point = '-' || point = '+' || point = ' ' || point = '#' || point = '0'
          let rest := rest.drop flags.length
          let (width, values, rest) ← takeSize values rest
          let flags := if (width.getD 0) < 0 then "-" ++ flags else flags
          let (precision, values, rest) ←
            match rest with
            | point :: behind =>
                if point = '.' then do
                  let (found, values, rest) ← takeSize values behind
                  pure (some (found.getD 0).toNat, values, rest)
                else pure (none, values, rest)
            | [] => pure (none, values, rest)
          let rest :=
            match rest with
            | point :: behind => if point = 'h' || point = 'l' || point = 'L' then behind else rest
            | [] => []
          match rest with
          | [] => refuseValue "incomplete format"
          | form :: behind =>
              let (value, values) ← takeValue values
              let place : PercentPlace :=
                { key, flags, width := width.map Int.natAbs, precision, form }
              let shown ← filledPlace place value (length - behind.length - 1)
              let (tail, values) ← fillPercents length fuel values behind
              return (plain ++ shown ++ tail, values)

/-- Fills a template with percent signs. -/
def fillTemplate (template : Text) (value : ScriptValue) : ScriptRun Text := do
  let content ← contentOf value
  let isMapping ← do
    match content with
    | .object place =>
        match ← objectAt place with
        | .mapping _ | .list _ | .row _ _ => pure true
        | .instance _ => pure (← method? value "__getitem__").isSome
        | _ => pure false
    | .range _ _ _ | .bytes _ => pure true
    | _ => pure false
  let values : TemplateValues :=
    match content with
    | .tuple items => { values := items }
    | _ => { values := [value], mapping := if isMapping then some value else none }
  let (filled, left) ← fillPercents template.length (template.length + 1) values template
  let isLeft := !left.values.isEmpty && !left.isTaken && !isMapping
  if isLeft then refuseType "not all arguments converted during string formatting"
  return filled

/-- How the places between braces have been numbered so far. -/
structure Numbering where
  next : Nat := 0
  isWritten : Option Bool := none
deriving Inhabited

/-- The name of a place between braces, up to the mark that ends it. -/
def takePlaceName (inBrackets : Bool) : Text → ScriptRun (Text × Text)
  | [] => refuseValue "expected '\x7d' before end of string"
  | point :: rest => do
      if !inBrackets && (point = '\x7d' || point = ':' || point = '!') then
        return ([], point :: rest)
      if !inBrackets && point = '\x7b' then refuseValue "unexpected '\x7b' in field name"
      let inBrackets := if point = '[' then true else if point = ']' then false else inBrackets
      let (name, rest) ← takePlaceName inBrackets rest
      return (point :: name, rest)

/-- The format of a place between braces, up to the brace that ends it. -/
def takePlaceFormat (depth : Nat) : Text → ScriptRun (Text × Text)
  | [] => refuseValue "unmatched '\x7b' in format spec"
  | point :: rest => do
      if point = '\x7d' && depth = 0 then return ([], rest)
      let depth := if point = '\x7b' then depth + 1 else if point = '\x7d' then depth - 1 else depth
      let (format, rest) ← takePlaceFormat depth rest
      return (point :: format, rest)

/-- The attributes and members that a name leads to from a value. -/
def follow (value : ScriptValue) : Nat → Text → ScriptRun ScriptValue
  | 0, _ => return value
  | _, [] => return value
  | fuel + 1, mark :: rest => do
      if mark = '.' then
        let name := rest.takeWhile fun (point : CodePoint) => point ≠ '.' && point ≠ '['
        if name.isEmpty then refuseValue "Empty attribute in format string"
        follow (← attributeOf value name) fuel (rest.drop name.length)
      else if mark = '[' then
        let name := rest.takeWhile fun (point : CodePoint) => point ≠ ']'
        match rest.drop name.length with
        | [] => refuseValue "Missing ']' in format string"
        | _ :: behind =>
            if name.isEmpty then refuseValue "Empty attribute in format string"
            let index : ScriptValue :=
              if name.all CodePoint.isAsciiDigit then .integer (Text.digitsValue name)
              else .text name
            follow (← itemAt value index) fuel behind
      else refuseValue "Only '.' or '[' may follow ']' in format field specifier"

/-- The value that a place between braces names. -/
def placeValue (given : List ScriptValue) (named : Text → ScriptRun ScriptValue)
    (hasPlaces : Bool) (numbering : Numbering) (name : Text) :
    ScriptRun (ScriptValue × Numbering) := do
  let first := name.takeWhile fun (point : CodePoint) => point ≠ '.' && point ≠ '['
  let rest := name.drop first.length
  let isNumber := first.all CodePoint.isAsciiDigit
  if !isNumber then
    return (← follow (← named first) rest.length rest, numbering)
  if 18 < first.length then refuseValue "Too many decimal digits in format string"
  let isWritten := !first.isEmpty
  match numbering.isWritten, isWritten with
  | some true, false =>
      refuseValue ("cannot switch from manual field specification to automatic field numbering" :
        Text)
  | some false, true =>
      refuseValue ("cannot switch from automatic field numbering to manual field specification" :
        Text)
  | _, _ => pure ()
  let index := if isWritten then Text.digitsValue first else numbering.next
  let numbering : Numbering :=
    { next := if isWritten then numbering.next else numbering.next + 1, isWritten := some isWritten }
  if !hasPlaces then refuseValue "Format string contains positional fields"
  match given[index]? with
  | some value => return (← follow value rest.length rest, numbering)
  | none =>
      refuse "IndexError" (("Replacement index " : Text) ++ Text.ofNat index ++
        " out of range for positional args tuple")

/-- Fills the places between braces.  The first fuel bounds how deep places are inside formats, the
second one the length of the template. -/
def fillBraces (given : List ScriptValue) (named : Text → ScriptRun ScriptValue)
    (hasPlaces : Bool) :
    Nat → Nat → Numbering → Text → ScriptRun (Text × Numbering)
  | 0, _, _, _ => refuseValue "Max string recursion exceeded"
  | _ + 1, 0, numbering, _ => return ([], numbering)
  | depth + 1, fuel + 1, numbering, template => do
      let plain := template.takeWhile fun (point : CodePoint) => point ≠ '\x7b' && point ≠ '\x7d'
      match template.drop plain.length with
      | [] => return (plain, numbering)
      | brace :: rest =>
          if rest.head? = some brace then
            let (tail, numbering) ←
              fillBraces given named hasPlaces (depth + 1) fuel numbering (rest.drop 1)
            return (plain ++ [brace] ++ tail, numbering)
          if brace = '\x7d' then
            refuseValue "Single '\x7d' encountered in format string"
          if rest.isEmpty then refuseValue "Single '\x7b' encountered in format string"
          let (name, rest) ← takePlaceName false rest
          let (conversion, rest) ←
            match rest with
            | mark :: behind =>
                if mark = '!' then
                  match behind with
                  | [] => refuseValue "end of string while looking for conversion specifier"
                  | letter :: next :: others =>
                      if next = ':' || next = '\x7d' then pure (some letter, next :: others)
                      else refuseValue "expected ':' after conversion specifier"
                  | [_] => refuseValue "unmatched '\x7b' in format spec"
                else pure (none, rest)
            | [] => pure (none, rest)
          let (written, rest) ←
            match rest with
            | mark :: behind =>
                if mark = ':' then takePlaceFormat 0 behind else pure ([], behind)
            | [] => pure ([], [])
          let (value, numbering) ← placeValue given named hasPlaces numbering name
          let value ←
            match conversion with
            | none => pure value
            | some letter =>
                if letter = 's' then pure (.text (← shownText value))
                else if letter = 'r' then pure (.text (← displayText value))
                else if letter = 'a' then pure (.text (asciiForm (← displayText value)))
                else
                  refuseValue (("Unknown conversion specifier " : Text) ++ [letter])
          let (format, numbering) ←
            if written.contains '\x7b' || written.contains '\x7d' then
              fillBraces given named hasPlaces depth fuel numbering written
            else pure (written, numbering)
          let shown ← formattedBy value format
          let (tail, numbering) ←
            fillBraces given named hasPlaces (depth + 1) fuel numbering rest
          return (plain ++ shown ++ tail, numbering)

/-- Fills a template with braces from arguments. -/
def fillFrom (template : Text) (given : List ScriptValue) (named : Text → ScriptRun ScriptValue)
    (hasPlaces : Bool) : ScriptRun Text := do
  return (← fillBraces given named hasPlaces 2 (template.length + 1) {} template).1

end ScriptRun

end EventForge
