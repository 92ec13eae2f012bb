import EventForge.Script.Comparison
import EventForge.Number.ShortestDecimal

/-!
# Values as texts

A value has a form on its own and a form inside of others, where texts stand in quotes.  Classes
decide about the forms of their instances.  A collection inside itself is shown by three points.
-/

namespace EventForge

namespace ScriptRun

/-- The greatest number of digits of an integer that is shown. -/
def maxDigits : Nat := 4300

/-- The digits of an integer. -/
def integerText (number : Int) : ScriptRun Text := do
  let shown := Text.ofInt number
  if maxDigits < shown.length - (if number < 0 then 1 else 0) then
    refuseValue (("Exceeds the limit (4300 digits) for integer string conversion; " : Text) ++
      "use sys.set_int_max_str_digits() to increase the limit")
  return shown

/-- Whether a kind belongs to a known one. -/
def isKindOf (kind : ScriptValue) (name : String) : ScriptRun Bool := isBelow kind (.kind name)

/-- The name of a kind with those of its module and of the functions and classes around it. -/
def fullName (kind : ScriptValue) : ScriptRun Text := do
  match kind with
  | .kind name => return Text.ofString name
  | kind =>
      match ← madeKind? kind with
      | some made =>
          return if made.module.isEmpty || made.module = ("builtins" : Text) then made.path
            else made.module ++ "." ++ made.path
      | none => return "object"

/-- The path of a kind inside its module. -/
def pathOfKind (kind : ScriptValue) : ScriptRun Text := do
  match kind with
  | .kind name => return Text.ofString (KnownKind.shortName name)
  | kind => return ((← madeKind? kind).map fun made => made.path).getD "object"

/-- The name of a kind without that of its module. -/
def bareName (kind : ScriptValue) : ScriptRun Text := do
  match kind with
  | .kind name => return Text.ofString (KnownKind.shortName name)
  | kind => nameOfKind kind

/-- The arguments of a fault. -/
def faultArguments (found : ScriptInstance) : List ScriptValue :=
  match found.content with
  | .tuple arguments => arguments
  | _ => []

/-- A text with escapes for all that is not ASCII. -/
def asciiForm (shown : Text) : Text :=
  shown.flatMap fun (point : CodePoint) =>
    if point.val < 0x80 then [point] else Quoted.numericEscape point

/-- A place in the form of an address. -/
def addressText (place : ObjectPlace) : Text :=
  ("0x7f" : Text) ++ Text.ofHex 10 (0x1000000000 + 16 * place)

/-- The call of a method that gives a text. -/
def textBy (method : ScriptValue) (name : Text) : ScriptRun Text := do
  match ← contentOf (← call method []) with
  | .text shown => return shown
  | .unknown => return []
  | other =>
      refuseType (name ++ " returned non-string (type " ++ (← kindName other) ++ ")")

/-- The entries of a counter, the greatest counts first. -/
def byCount (entries : List (ScriptValue × ScriptValue)) : List (ScriptValue × ScriptValue) :=
  entries.mergeSort fun first second =>
    match first.2.quantity?, second.2.quantity? with
    | some left, some right => left.compare? right != some .lt
    | _, _ => true

/-- The form of a function or another object that holds no values. -/
def opaqueText (place : ObjectPlace) (object : ScriptObject) : ScriptRun Text := do
  match object with
  | .function function =>
      let path ←
        match ← field? function.names "__qualname__" with
        | some (.text given) => pure given
        | _ => pure function.code.path
      return ("<function " : Text) ++ path ++ " at " ++ addressText place ++ ">"
  | .closure closure =>
      if closure.binds then
        let shown ← field? closure.names "__qualname__"
        let path : Text :=
          match shown with
          | some (.text given) => given
          | _ => Text.ofString closure.name
        return ("<function " : Text) ++ path ++ " at " ++ addressText place ++ ">"
      return ("<" : Text) ++ Text.ofString (objectKind object) ++ " object at " ++
        addressText place ++ ">"
  | .module name names =>
      match ← field? names "__file__" with
      | some (.text file) =>
          return ("<module " : Text) ++ Quoted.ofText name ++ " from " ++ Quoted.ofText file ++ ">"
      | _ => return ("<module " : Text) ++ Quoted.ofText name ++ " (built-in)>"
  | .stream (.ofFunction _ flavour name) =>
      let kind := objectKind (.stream (.ofFunction .finished flavour name))
      return ("<" : Text) ++ Text.ofString kind ++ " object " ++ name ++ " at " ++
        addressText place ++ ">"
  | .marker name => return Text.ofString name
  | object =>
      return ("<" : Text) ++ Text.ofString (objectKind object) ++ " object at " ++
        addressText place ++ ">"

/-- The form of a member of an enumeration. -/
def memberText (found : ScriptInstance) : ScriptRun Text := do
  let name : Text :=
    match ← field? found.names "_name_" with
    | some (.text name) => name
    | _ => []
  return (← nameOfKind found.kind) ++ "." ++ name

/-- A form between marks. -/
def enclosed (opening closing : Text) (pieces : List Text) : Text :=
  opening ++ Text.join ", " pieces ++ closing

/-- The form of a value inside of others.  The fuel bounds how deep it is; `labels` are the
collections around it. -/
def displayIn : Nat → List ObjectPlace → ScriptValue → ScriptRun Text
  | 0, _, _ => refuseDepth " while getting the repr of an object"
  | fuel + 1, labels, value => do
      let pairs (labels : List ObjectPlace) (entries : List (ScriptValue × ScriptValue)) :
          ScriptRun (List Text) :=
        entries.mapM fun entry =>
          return (← displayIn fuel labels entry.1) ++ ": " ++ (← displayIn fuel labels entry.2)
      match value with
      | .nothing => return "None"
      | .bool truth => return if truth then "True" else "False"
      | .integer number => integerText number
      | .float number => return ShortestDecimal.text number
      | .text content => return Quoted.ofText content
      | .bytes content => return Quoted.ofBytes content
      | .ellipsis => return "Ellipsis"
      | .unsupported => return "NotImplemented"
      | .unknown => return []
      | .tuple [item] => return ("(" : Text) ++ (← displayIn fuel labels item) ++ ",)"
      | .tuple items => return enclosed "(" ")" (← items.mapM (displayIn fuel labels))
      | .range start stop step =>
          let bounds := [Text.ofInt start, Text.ofInt stop] ++
            (if step = 1 then [] else [Text.ofInt step])
          return enclosed "range(" ")" bounds
      | .slice start stop step =>
          return enclosed "slice(" ")" (← [start, stop, step].mapM (displayIn fuel labels))
      | .kind name => return ("<class " : Text) ++ Quoted.ofText (Text.ofString name) ++ ">"
      | .native group name =>
          if (KnownKind.methods.any fun entry => entry.1 == group) then
            return ("<method " : Text) ++ Quoted.ofText (Text.ofString name) ++ " of " ++
              Quoted.ofText (KnownKind.shownName group) ++ " objects>"
          return ("<built-in function " : Text) ++ Text.ofString name ++ ">"
      | .bound (.native _ name) owner =>
          return ("<built-in method " : Text) ++ Text.ofString name ++ " of " ++
            (← kindName owner) ++ " object at " ++ addressText 0 ++ ">"
      | .bound function owner =>
          let path : Text ←
            match ← attribute? function "__qualname__" with
            | some (.text path) => pure path
            | _ => pure "?"
          return ("<bound method " : Text) ++ path ++ " of " ++
            (← displayIn fuel labels owner) ++ ">"
      | .object place =>
          let object ← objectAt place
          if labels.contains place then
            match object with
            | .list _ => return "[...]"
            | .mapping _ => return "\x7b...\x7d"
            | .set _ _ => return "set(...)"
            | _ => return "..."
          let labels := place :: labels
          match object with
          | .list items => return enclosed "[" "]" (← items.toList.mapM (displayIn fuel labels))
          | .mapping entries =>
              return enclosed "\x7b" "\x7d" (← pairs labels entries.toList)
          | .set items isFrozen =>
              let name : Text := if isFrozen then "frozenset(" else "set("
              if items.isEmpty then return name ++ ")"
              let inner := enclosed "\x7b" "\x7d" (← items.toList.mapM (displayIn fuel labels))
              return if isFrozen then name ++ inner ++ ")" else inner
          | .buffer content => return ("bytearray(" : Text) ++ Quoted.ofBytes content ++ ")"
          | .view mapping part =>
              let items := (← entriesAt mapping).toList.map fun entry =>
                match part with
                | .key => entry.1
                | .value => entry.2
                | .both => .tuple [entry.1, entry.2]
              return Text.ofString (objectKind object) ++
                enclosed "([" "])" (← items.mapM (displayIn fuel labels))
          | .madeKind made =>
              match ← method? value "__repr__" with
              | some method => textBy method "__repr__"
              | none =>
                  if made.metaclass == .kind "enum.EnumType" then
                    let lead : Text := if made.order.contains (.kind "enum.Flag") then "<flag "
                      else "<enum "
                    return lead ++ Quoted.ofText made.name ++ ">"
                  return ("<class " : Text) ++ Quoted.ofText (← fullName value) ++ ">"
          | .stream (.counted next step) =>
              let shown ← displayIn fuel labels next
              match step with
              | .integer 1 => return ("count(" : Text) ++ shown ++ ")"
              | step => return enclosed "count(" ")" [shown, ← displayIn fuel labels step]
          | .instance found => instanceText fuel labels place found pairs
          | object => opaqueText place object
where
  /-- The form of an instance. -/
  instanceText (fuel : Nat) (labels : List ObjectPlace) (place : ObjectPlace)
      (found : ScriptInstance)
      (pairs : List ObjectPlace → List (ScriptValue × ScriptValue) → ScriptRun (List Text)) :
      ScriptRun Text := do
    let value := ScriptValue.object place
    if let some method ← method? value "__repr__" then return ← textBy method "__repr__"
    let kinds ← orderOf found.kind
    let isOf (kind : String) : Bool := kinds.contains (.kind kind)
    let name ← bareName found.kind
    if isOf "BaseException" then
      let arguments ← (faultArguments found).mapM (displayIn fuel labels)
      return name ++ enclosed "(" ")" arguments
    if isOf "enum.Enum" then
      let inner := (← field? found.names "_value_").getD .nothing
      return ("<" : Text) ++ (← memberText found) ++ ": " ++ (← displayIn fuel labels inner) ++ ">"
    if isOf "collections.deque" then
      let limit := (← field? found.names "maxlen").getD .nothing
      let shown ← displayIn fuel labels found.content
      match limit with
      | .nothing => return name ++ "(" ++ shown ++ ")"
      | limit => return name ++ "(" ++ shown ++ ", maxlen=" ++ (← displayIn fuel labels limit) ++ ")"
    if isOf "collections.defaultdict" then
      let factory := (← field? found.names "default_factory").getD .nothing
      return name ++ enclosed "(" ")" [← displayIn fuel labels factory,
        ← displayIn fuel labels found.content]
    if isOf "collections.Counter" || isOf "collections.OrderedDict" then
      let entries := ((← entries? found.content).getD #[]).toList
      if entries.isEmpty then return name ++ "()"
      if isOf "collections.Counter" then
        return name ++ "(" ++ enclosed "\x7b" "\x7d" (← pairs labels (byCount entries)) ++ ")"
      let items ← entries.mapM fun entry => displayIn fuel labels (.tuple [entry.1, entry.2])
      return name ++ enclosed "([" "])" items
    if isOf "types.SimpleNamespace" then
      let fields ← (← entriesAt found.names).toList.mapM fun entry => do
        let key : Text :=
          match entry.1 with
          | .text key => key
          | _ => []
        return key ++ "=" ++ (← displayIn fuel labels entry.2)
      return (if name = ("SimpleNamespace" : Text) then ("namespace" : Text) else name) ++
        enclosed "(" ")" fields
    match found.content with
    | .nothing =>
        return ("<" : Text) ++ (← fullName found.kind) ++ " object at " ++ addressText place ++ ">"
    | .object content =>
        match ← objectAt content with
        | .set items _ =>
            let inner := enclosed "\x7b" "\x7d" (← items.toList.mapM (displayIn fuel labels))
            return name ++ "(" ++ (if items.isEmpty then [] else inner) ++ ")"
        | _ => displayIn fuel labels (.object content)
    | content => displayIn fuel labels content

/-- The form of a value inside of others. -/
def displayText (value : ScriptValue) : ScriptRun Text := displayIn maxNesting [] value

/-- The form of a value as its kind has it, whatever its own class says. -/
def plainDisplay (value : ScriptValue) : ScriptRun Text := do
  match ← instance? value with
  | none => displayText value
  | some found =>
      let kinds ← orderOf found.kind
      let isPlain := kinds.all fun kind =>
        match kind with
        | .object _ => true
        | .kind "object" => true
        | _ => false
      match value with
      | .object place =>
          if isPlain then
            return ("<" : Text) ++ (← fullName found.kind) ++ " object at " ++
              addressText place ++ ">"
          if kinds.contains (.kind "BaseException") then
            let arguments ← (faultArguments found).mapM displayText
            return (← nameOfKind found.kind) ++ enclosed "(" ")" arguments
          if found.content == .nothing then displayText value else displayText found.content
      | value => displayText value

/-- The message that a byte cannot be read. -/
def undecodableText (arguments : List ScriptValue) : Option Text :=
  match arguments with
  | [.text codec, .bytes content, .integer start, .integer stop, .text reason] =>
      let shown : Text :=
        if stop = start + 1 then
          ("byte 0x" : Text) ++ Text.ofHex 2 ((content.getD start.toNat 0).toNat) ++
            " in position " ++ Text.ofInt start
        else ("bytes in position " : Text) ++ Text.ofInt start ++ "-" ++ Text.ofInt (stop - 1)
      some (Quoted.ofText codec ++ " codec can't decode " ++ shown ++ ": " ++ reason)
  | [.text codec, .text content, .integer start, .integer stop, .text reason] =>
      let shown : Text :=
        if stop = start + 1 then
          ("character " : Text) ++ ("'" : Text) ++
            ((content[start.toNat]?).map Quoted.numericEscape).getD [] ++ "' in position " ++
            Text.ofInt start
        else ("characters in position " : Text) ++ Text.ofInt start ++ "-" ++ Text.ofInt (stop - 1)
      some (Quoted.ofText codec ++ " codec can't encode " ++ shown ++ ": " ++ reason)
  | _ => none

mutual

/-- The form of a value on its own.  The fuel bounds how deep faults are inside each other. -/
def shownIn : Nat → ScriptValue → ScriptRun Text
  | 0, _ => refuseDepth " while getting the str of an object"
  | fuel + 1, value => do
      match value with
      | .text content => return content
      | .object place =>
          match ← objectAt place with
          | .instance found =>
              match ← method? value "__str__" with
              | some method => textBy method "__str__"
              | none => plainShownIn fuel value found
          | .madeKind _ =>
              match ← method? value "__str__" with
              | some method => textBy method "__str__"
              | none => displayText value
          | _ => displayText value
      | value => displayText value

/-- The form of an instance on its own as its kind has it. -/
def plainShownIn : Nat → ScriptValue → ScriptInstance → ScriptRun Text
  | 0, _, _ => refuseDepth " while getting the str of an object"
  | fuel + 1, value, found => do
      let kinds ← orderOf found.kind
      let isOf (kind : String) : Bool := kinds.contains (.kind kind)
      if isOf "BaseException" then
        let arguments := faultArguments found
        if isOf "BaseExceptionGroup" then
          if let some (.tuple members) ← field? found.names "exceptions" then
            let message ← shownIn fuel ((← field? found.names "message").getD .nothing)
            let plural : Text := if members.length = 1 then [] else "s"
            return message ++ " (" ++ Text.ofNat members.length ++ " sub-exception" ++ plural ++ ")"
        match arguments with
        | [] => return []
        | [argument] => if isOf "KeyError" then displayText argument else shownIn fuel argument
        | number :: reason :: others =>
            if isOf "OSError" then
              let lead := ("[Errno " : Text) ++ (← shownIn fuel number) ++ "] " ++
                (← shownIn fuel reason)
              match ← field? found.names "filename" with
              | some file => return lead ++ ": " ++ (← displayText file)
              | none =>
                  if others.isEmpty then return lead
                  displayText (.tuple arguments)
            else
              match (if isOf "UnicodeError" then undecodableText arguments else none) with
              | some message => return message
              | none => displayText (.tuple arguments)
      else if isOf "enum.Enum" then
        if isOf "enum.IntEnum" || isOf "enum.StrEnum" || isOf "enum.IntFlag" then
          shownIn fuel found.content
        else memberText found
      else
        match found.content with
        | .text content => return content
        | _ => displayText value

end

/-- The form of a value on its own. -/
def shownText (value : ScriptValue) : ScriptRun Text := shownIn maxNesting value

end ScriptRun

end EventForge
