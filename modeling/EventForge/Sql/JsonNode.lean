import EventForge.Sql.Cell

/-!
# JSON in cells

The database reads JSON from texts and writes it without blanks, with numbers and strings as they are
written.  A path leads from a value to one within it: a label leads into an object, a position into
an array, counted from the front or from the end.
-/

namespace EventForge

inductive JsonNode where
  | null
  | truth (value : Bool)
  /-- A number as it is written, which is an integer unless it has a point or an exponent. -/
  | number (written : Text) (isReal : Bool)
  /-- What stands between the quotes. -/
  | text (written : Text)
  | array (items : List JsonNode)
  | object (labels : List Text) (values : List JsonNode)
  /-- A value that was put in its place, into which no path leads. -/
  | placed (value : JsonNode)
deriving Inhabited

namespace JsonNode

/-! ### Writing -/

mutual

/-- A value as it is written. -/
def render : JsonNode → Text
  | .null => "null"
  | .truth true => "true"
  | .truth false => "false"
  | .number written _ => written
  | .text written => ("\"" : Text) ++ written ++ "\""
  | .array items => ("[" : Text) ++ Text.join "," (renderAll items) ++ "]"
  | .object labels values =>
      let members := (labels.zip (renderAll values)).map fun member =>
        ("\"" : Text) ++ member.1 ++ "\":" ++ member.2
      ("\x7b" : Text) ++ Text.join "," members ++ "\x7d"
  | .placed value => render value

def renderAll : List JsonNode → List Text
  | [] => []
  | item :: items => render item :: renderAll items

end

mutual

/-- How many values and labels a value holds, itself included. -/
def size : JsonNode → Nat
  | .array items => 1 + sizeAll items
  | .object labels values => 1 + labels.length + sizeAll values
  | .placed value => size value
  | _ => 1

def sizeAll : List JsonNode → Nat
  | [] => 0
  | item :: items => size item + sizeAll items

end

/-- The letter behind a backslash that stands for a code point. -/
def escapeLetter? (point : CodePoint) : Option CodePoint :=
  if point.val = 0x08 then some (CodePoint.ofChar 'b')
  else if point.val = 0x09 then some (CodePoint.ofChar 't')
  else if point.val = 0x0A then some (CodePoint.ofChar 'n')
  else if point.val = 0x0C then some (CodePoint.ofChar 'f')
  else if point.val = 0x0D then some (CodePoint.ofChar 'r')
  else if point = '"' || point = '\\' then some point
  else none

/-- A text between quotes, without them. -/
def escaped (text : Text) : Text :=
  let mark := CodePoint.ofChar '\\'
  text.flatMap fun point : CodePoint =>
    match escapeLetter? point with
    | some letter => [mark, letter]
    | none =>
        if point.val < 0x20 then mark :: CodePoint.ofChar 'u' :: Text.ofHex 4 point.val
        else [point]

/-- The number that four digits in base sixteen name. -/
def hexOf (digits : Text) : Nat :=
  (digits.filterMap CodePoint.hexValue?).foldl (fun sum digit => sum * 16 + digit) 0

/-- The code point that a letter behind a backslash stands for. -/
def escapedPoint (letter : CodePoint) : CodePoint :=
  if letter = 'b' then 0x08
  else if letter = 'f' then 0x0C
  else if letter = 'n' then 0x0A
  else if letter = 'r' then 0x0D
  else if letter = 't' then 0x09
  else letter

/-- The text that is written between quotes, in which a NUL ends it.  Surrogates that are no pair
encode nothing. -/
def unescaped : Nat → Text → Text
  | 0, _ => []
  | _ + 1, [] => []
  | fuel + 1, point :: rest =>
      if point ≠ '\\' then point :: unescaped fuel rest
      else
        match rest with
        | [] => []
        | letter :: rest =>
            if letter ≠ 'u' then escapedPoint letter :: unescaped fuel rest
            else
              let number := hexOf (rest.take 4)
              let behind := rest.drop 4
              let low := hexOf ((behind.drop 2).take 4)
              if number = 0 then []
              else if 0xD800 ≤ number && number < 0xDC00 && Text.startsWith behind "\\u" &&
                  0xDC00 ≤ low && low < 0xE000 then
                CodePoint.ofNat ((number - 0xD800) * 0x400 + (low - 0xDC00) + 0x10000) ::
                  unescaped fuel (behind.drop 6)
              else if 0xD800 ≤ number && number < 0xE000 then
                Cell.textOfBlob (Utf8.encodePoint (CodePoint.ofNat number)) ++
                  unescaped fuel behind
              else CodePoint.ofNat number :: unescaped fuel behind

/-- The cell that a value is; arrays and objects are texts. -/
def toCell : JsonNode → Cell
  | .null => .null
  | .truth value => .integer (if value then 1 else 0)
  | .number written isReal =>
      let found := NumberText.ofText written
      if !isReal && Cell.inRange found.integer then .integer found.integer else .real found.real
  | .text written => .text (unescaped (written.length + 1) written)
  | .array items => .text (render (.array items))
  | .object labels values => .text (render (.object labels values))
  | .placed value => toCell value

/-- The kind of a value. -/
def kind : JsonNode → Text
  | .null => "null"
  | .truth true => "true"
  | .truth false => "false"
  | .number _ true => "real"
  | .number _ false => "integer"
  | .text _ => "text"
  | .array _ => "array"
  | .object _ _ => "object"
  | .placed value => kind value

/-- Whether a value holds others. -/
def isContainer : JsonNode → Bool
  | .array _ | .object _ _ => true
  | _ => false

/-! ### Reading -/

def isSpace (point : CodePoint) : Bool :=
  point.val = 0x20 || point.val = 0x09 || point.val = 0x0A || point.val = 0x0D

def skipSpace (text : Text) : Text := text.dropWhile isSpace

/-- What stands between quotes behind the opening one, and the text behind the closing one. -/
def takeText : Text → Option (Text × Text)
  | [] => none
  | point :: rest =>
      if point = '"' then some ([], rest)
      else if point.val < 0x20 then none
      else if point ≠ '\\' then (takeText rest).map fun found => (point :: found.1, found.2)
      else
        match rest with
        | [] => none
        | letter :: rest =>
            let isLetter : Bool := "\"\\/bfnrt".toList.any fun known => letter = known
            let isNumber : Bool := letter = 'u' && (rest.take 4).length = 4 &&
              (rest.take 4).all fun digit => digit.hexValue?.isSome
            if isLetter || isNumber then
              (takeText rest).map fun found => (point :: letter :: found.1, found.2)
            else none

/-- A number at the front of a text, and the text behind it. -/
def takeNumber (text : Text) : Option (JsonNode × Text) :=
  let sign := text.takeWhile fun point => point = CodePoint.ofChar '-'
  let unsigned := text.drop sign.length
  let whole := unsigned.takeWhile CodePoint.isAsciiDigit
  let rest := unsigned.drop whole.length
  let (pointed, fraction, rest) := NumberText.takeFraction rest
  let marked : Bool := match rest with
    | letter :: _ => letter = 'e' || letter = 'E'
    | [] => false
  let behind := rest.drop 1
  let exponentSign : Text := match behind with
    | sign :: _ => if sign = '+' || sign = '-' then [sign] else []
    | [] => []
  let exponent := (behind.drop exponentSign.length).takeWhile CodePoint.isAsciiDigit
  let rest := if marked then behind.drop (exponentSign.length + exponent.length) else rest
  let written := text.take (text.length - rest.length)
  if 1 < sign.length || whole.isEmpty || (1 < whole.length && whole.head? = some Decimal.zero) ||
      (pointed && fraction.isEmpty) || (marked && exponent.isEmpty) then
    none
  else some (.number written (pointed || marked), rest)

/-- A word at the front of a text, and the text behind it. -/
def takeWord (word : Text) (value : JsonNode) (text : Text) : Option (JsonNode × Text) :=
  match text.dropLead? word with
  | some rest => if rest.head?.any CodePoint.isAsciiAlphanumeric then none else some (value, rest)
  | none => none

mutual

/-- A value at the front of a text, and the text behind it. -/
def takeValue : Nat → Text → Option (JsonNode × Text)
  | 0, _ => none
  | fuel + 1, source =>
      match skipSpace source with
      | [] => none
      | point :: rest =>
          if point = '"' then (takeText rest).map fun found => (.text found.1, found.2)
          else if point = '[' then
            match (skipSpace rest).dropLead? "]" with
            | some rest => some (.array [], rest)
            | none => (takeItems fuel rest).map fun found => (.array found.1, found.2)
          else if point.val = 0x7B then
            match (skipSpace rest).dropLead? "\x7d" with
            | some rest => some (.object [] [], rest)
            | none =>
                (takeMembers fuel rest).map fun found =>
                  (.object (found.1.map (·.1)) (found.1.map (·.2)), found.2)
          else if point = 'n' then takeWord "null" .null (point :: rest)
          else if point = 't' then takeWord "true" (.truth true) (point :: rest)
          else if point = 'f' then takeWord "false" (.truth false) (point :: rest)
          else takeNumber (point :: rest)
termination_by structural fuel => fuel

/-- The items of an array up to its end. -/
def takeItems : Nat → Text → Option (List JsonNode × Text)
  | 0, _ => none
  | fuel + 1, source => do
      let (item, rest) ← takeValue fuel source
      match skipSpace rest with
      | [] => none
      | point :: rest =>
          if point = ']' then return ([item], rest)
          else if point = ',' then
            let (items, rest) ← takeItems fuel rest
            return (item :: items, rest)
          else none
termination_by structural fuel => fuel

/-- The members of an object up to its end. -/
def takeMembers : Nat → Text → Option (List (Text × JsonNode) × Text)
  | 0, _ => none
  | fuel + 1, source => do
      let rest ← (skipSpace source).dropLead? "\""
      let (label, rest) ← takeText rest
      let rest ← (skipSpace rest).dropLead? ":"
      let (value, rest) ← takeValue fuel rest
      match skipSpace rest with
      | [] => none
      | point :: rest =>
          if point.val = 0x7D then return ([(label, value)], rest)
          else if point = ',' then
            let (members, rest) ← takeMembers fuel rest
            return ((label, value) :: members, rest)
          else none
termination_by structural fuel => fuel

end

/-- The value that a text is wholly. -/
def read (text : Text) : Option JsonNode :=
  let text := text.takeWhile fun point => point.val ≠ 0
  match takeValue (text.length + 1) text with
  | some (value, rest) => if (skipSpace rest).isEmpty then some value else none
  | none => none

/-! ### Paths -/

inductive Step
  | label (label : Text)
  | position (index : Nat)
  /-- A position counted from the end; zero is behind the last item. -/
  | fromEnd (count : Nat)
deriving DecidableEq, Repr

/-- The position in brackets at the front of a path, and the path behind it. -/
def takePosition (path : Text) : Option (Step × Text) :=
  let digits := path.takeWhile CodePoint.isAsciiDigit
  if !digits.isEmpty then
    (Text.dropLead? (path.drop digits.length) "]").map fun rest =>
      (.position (Text.digitsValue digits), rest)
  else do
    let rest ← path.dropLead? "#"
    match rest.dropLead? "-" with
    | none => (rest.dropLead? "]").map fun rest => (.fromEnd 0, rest)
    | some behind =>
        let digits := behind.takeWhile CodePoint.isAsciiDigit
        if digits.isEmpty then none
        else
          (Text.dropLead? (behind.drop digits.length) "]").map fun rest =>
            (.fromEnd (Text.digitsValue digits), rest)

/-- The first step of a path, and the path behind it.  A path that is none is given up with the part
of it that does not fit. -/
def takeStep (path : Text) : Except Text (Step × Text) :=
  match path with
  | [] => .error []
  | point :: rest =>
      if point = '.' then
        match rest with
        | [] => .error []
        | mark :: behind =>
            if mark = '"' then
              let label := behind.takeWhile fun point => point ≠ CodePoint.ofChar '"'
              if label.length = behind.length then .error rest
              else .ok (.label label, behind.drop (label.length + 1))
            else
              let label := rest.takeWhile fun point =>
                point ≠ CodePoint.ofChar '.' && point ≠ CodePoint.ofChar '['
              if label.isEmpty then .error rest else .ok (.label label, rest.drop label.length)
      else if point = '[' then
        match takePosition rest with
        | some found => .ok found
        | none => .error path
      else .error path

/-- The position that a step leads to among some items. -/
def indexOf (step : Step) (count : Nat) : Option Nat :=
  match step with
  | .label _ => none
  | .position index => some index
  | .fromEnd back => if count < back then none else some (count - back)

/-- The place of a value: what comes before it, and where it belongs. -/
structure Place where
  value : JsonNode
  /-- How many values and labels stand in front of the value. -/
  index : Nat
  /-- The place of the value that holds it, counted in the same way, and the label in it. -/
  holder : Option (Nat × Option Text) := none

/-- Whether a step looks for a label. -/
def wantsLabel (path : Text) : Bool := path.head? = some (CodePoint.ofChar '.')

/-- The place that a path leads to. -/
def locate : Nat → Place → Text → Except Text (Option Place)
  | 0, _, _ => .ok none
  | fuel + 1, place, path =>
      if path.isEmpty then .ok (some place)
      else
        match place.value with
        | .placed _ => .ok none
        | .object labels values => do
            if !wantsLabel path then
              if path.head? ≠ some (CodePoint.ofChar '[') then throw path
              let _ ← takeStep path
              return none
            let (step, rest) ← takeStep path
            match labels.findIdx? fun label => step = .label label with
            | none => return none
            | some position =>
                let before := (values.take position).map size
                let index := place.index + 2 + position + before.foldl (· + ·) 0
                locate fuel
                  { value := values.getD position .null, index
                    holder := some (place.index, labels[position]?) } rest
        | .array items => do
            if wantsLabel path then return none
            let (step, rest) ← takeStep path
            match indexOf step items.length with
            | none => return none
            | some position =>
                match items[position]? with
                | none => return none
                | some value =>
                    let before := (items.take position).map size
                    let index := place.index + 1 + before.foldl (· + ·) 0
                    locate fuel { value, index, holder := some (place.index, none) } rest
        | _ => do
            if wantsLabel path then return none
            if Text.startsWith path "[#" then return none
            let _ ← takeStep path
            return none

/-- The place that a whole path leads to; it starts with a mark. -/
def locatePath (value : JsonNode) (path : Text) : Except Text (Option Place) :=
  match path.dropLead? "$" with
  | none => .error path
  | some rest => locate (rest.length + 1) { value, index := 0 } rest

/-- What is made of nothing by a path: objects and arrays around a new value. -/
def grown (new : JsonNode) : Nat → Text → Except Text (Option JsonNode)
  | 0, _ => .ok none
  | fuel + 1, path =>
      if path.isEmpty then .ok (some (.placed new))
      else if wantsLabel path then do
        let (step, rest) ← takeStep path
        match step with
        | .label label =>
            return (← grown new fuel rest).map fun value => .object [escaped label] [value]
        | _ => return none
      else if Text.startsWith path "[0]" then do
        return (← grown new fuel (path.drop 3)).map fun value => .array [value]
      else .ok none

/-- A value with another one put where a path leads: in place of one that is there, or as a new one
if there is none. -/
def put (new : JsonNode) (replaces adds : Bool) :
    Nat → JsonNode → Text → Except Text (Option JsonNode)
  | 0, _, _ => .ok none
  | fuel + 1, value, path =>
      if path.isEmpty then .ok (if replaces then some (.placed new) else none)
      else
        match value with
        | .placed _ => .ok none
        | .object labels values => do
            if !wantsLabel path then
              if path.head? ≠ some (CodePoint.ofChar '[') then throw path
              let _ ← takeStep path
              return none
            let (step, rest) ← takeStep path
            match labels.findIdx? fun label => step = .label label, step with
            | some position, _ =>
                let changed ← put new replaces adds fuel (values.getD position .null) rest
                return changed.map fun found => .object labels (values.set position found)
            | none, .label label =>
                if !adds then return none
                return (← grown new (rest.length + 1) rest).map fun found =>
                  .object (labels ++ [escaped label]) (values ++ [found])
            | none, _ => return none
        | .array items => do
            if wantsLabel path then return none
            let (step, rest) ← takeStep path
            match indexOf step items.length with
            | none => return none
            | some position =>
                match items[position]? with
                | some found =>
                    let changed ← put new replaces adds fuel found rest
                    return changed.map fun found => .array (items.set position found)
                | none =>
                    if !adds || position ≠ items.length then return none
                    return (← grown new (rest.length + 1) rest).map fun found =>
                      .array (items ++ [found])
        | _ => do
            let _ ← locate 1 { value, index := 0 } path
            return none

/-- A value without the one that a path leads to; `none` if it is the value itself. -/
def remove : Nat → JsonNode → Text → Except Text (Option JsonNode)
  | 0, value, _ => .ok (some value)
  | fuel + 1, value, path =>
      if path.isEmpty then .ok none
      else
        match value with
        | .object labels values => do
            if !wantsLabel path then
              if path.head? ≠ some (CodePoint.ofChar '[') then throw path
              let _ ← takeStep path
              return some value
            let (step, rest) ← takeStep path
            match labels.findIdx? fun label => step = .label label with
            | none => return some value
            | some position =>
                match ← remove fuel (values.getD position .null) rest with
                | some found => return some (.object labels (values.set position found))
                | none =>
                    return some (.object (labels.eraseIdx position) (values.eraseIdx position))
        | .array items => do
            if wantsLabel path then return some value
            let (step, rest) ← takeStep path
            match (indexOf step items.length).bind fun position =>
                items[position]?.map fun found => (position, found) with
            | none => return some value
            | some (position, found) =>
                match ← remove fuel found rest with
                | some found => return some (.array (items.set position found))
                | none => return some (.array (items.eraseIdx position))
        | _ => do
            let _ ← locate 1 { value, index := 0 } path
            return some value

/-! ### Patches -/

/-- A value without members that are null, at any depth of objects. -/
def withoutNulls : Nat → JsonNode → JsonNode
  | 0, value => value
  | fuel + 1, value =>
      match value with
      | .object labels values =>
          let kept := (labels.zip values).filter fun member =>
            match member.2 with
            | .null => false
            | _ => true
          .object (kept.map (·.1)) (kept.map fun member => withoutNulls fuel member.2)
      | other => other

/-- A value changed by a patch: members of the patch replace those with their labels, and those that
are null remove them. -/
def patched : Nat → JsonNode → JsonNode → JsonNode
  | 0, value, _ => value
  | fuel + 1, value, patch =>
      match patch, value with
      | .object labels values, .object oldLabels oldValues =>
          let members := (labels.zip values).foldl (fun members change =>
            match members.findIdx? fun member : Text × JsonNode => member.1 = change.1, change.2 with
            | some position, .null => members.eraseIdx position
            | some position, new =>
                let old := ((members[position]?).map (·.2)).getD .null
                members.set position (change.1, patched fuel old new)
            | none, .null => members
            | none, new => members ++ [(change.1, withoutNulls fuel new)]) (oldLabels.zip oldValues)
          .object (members.map (·.1)) (members.map (·.2))
      | .object labels values, _ => withoutNulls fuel (.object labels values)
      | other, _ => other

end JsonNode

end EventForge
