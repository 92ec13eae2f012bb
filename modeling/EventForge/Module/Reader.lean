import EventForge.Fault
import EventForge.Module.Writer
import EventForge.Schema.Identifier

/-!
# Reading event modules

The declarations of a module are read from its lines.  What is read must write the same text again,
so that a text is read only if it is in the written form.  The classes cannot be built if an
attribute hides the name that marks the class methods.
-/

namespace EventForge

/-- Why the text of a module does not load. -/
inductive LoadFault
  /-- An attribute hides the mark of class methods. -/
  | hiddenMark
  /-- The text is not in the written form. -/
  | foreign
deriving DecidableEq, Repr

namespace ModuleText

/-- The text between a leading and a trailing part. -/
def between? (lead tail text : Text) : Option Text := do
  let rest ← Text.dropLead? text lead
  let back ← Text.dropLead? rest.reverse tail.reverse
  return back.reverse

/-- The first line that begins with a text, without it. -/
def after? (lead : Text) (lines : List Text) : Option Text :=
  lines.findSome? fun line => Text.dropLead? line lead

/-- The first line between a leading and a trailing part. -/
def inside? (lead tail : Text) (lines : List Text) : Option Text :=
  lines.findSome? (between? lead tail)

/-- Values of literals with commas between them, and the text behind them. -/
def literals? : Nat → Text → Option (List Text × Text)
  | 0, _ => none
  | fuel + 1, text => do
      let (value, rest) ← Literal.read? text
      match Text.dropLead? rest ", " with
      | some more =>
          let (values, rest) ← literals? fuel more
          return (value :: values, rest)
      | none => return ([value], rest)

/-- The values of a tuple of literals. -/
def tupleValues? (text : Text) : Option (List Text) := do
  let rest ← Text.dropLead? text "("
  if rest = (")" : Text) then return []
  let (values, rest) ← literals? (text.length + 1) rest
  if rest = (")" : Text) || rest = (",)" : Text) then return values
  none

/-- The pairs of a tuple of pairs of literals, up to its closing parenthesis. -/
def pairs? : Nat → Text → Option (List (Text × Text))
  | 0, _ => none
  | fuel + 1, text => do
      let rest ← Text.dropLead? text "("
      let (first, rest) ← Literal.read? rest
      let rest ← Text.dropLead? rest ", "
      let (second, rest) ← Literal.read? rest
      let rest ← Text.dropLead? rest ")"
      match Text.dropLead? rest ", " with
      | some more =>
          let others ← pairs? fuel more
          return (first, second) :: others
      | none =>
          if rest = (")" : Text) || rest = (",)" : Text) then return [(first, second)] else none

/-- The pairs of a tuple of pairs of literals. -/
def tuplePairs? (text : Text) : Option (List (Text × Text)) := do
  let rest ← Text.dropLead? text "("
  if rest = (")" : Text) then return []
  pairs? (text.length + 1) rest

def natural? (text : Text) : Option Nat :=
  if !text.isEmpty && text.all CodePoint.isAsciiDigit then some text.digitsValue else none

/-- The pieces of a text between the occurrences of a comma with a blank, without empty ones. -/
def listed (text : Text) : List Text :=
  (text.splitPair ',' ' ').filter fun piece => !piece.isEmpty

/-- The numbers of a tuple. -/
def tupleNumbers? (text : Text) : Option (List Nat) := do
  let inner ← between? "(" ")" text
  (listed ((inner.getLast?.bind fun last =>
    if last = ',' then some inner.dropLast else none).getD inner)).mapM natural?

/-- The attributes of a class without their generators: each remark stands above a declaration. -/
def remarks : List Text → List (Text × Text)
  | [] => []
  | [_] => []
  | line :: next :: rest =>
      match Text.dropLead? line "    # ", between? "    " ": int = 0" next with
      | some comment, some name => (name, comment) :: remarks rest
      | _, _ => remarks (next :: rest)

/-- The attribute and the value in a line of the form `name=value`. -/
def assignment? (line : Text) : Option (Text × Text) :=
  let name := line.takeWhile fun point => point ≠ CodePoint.ofChar '='
  match line.drop name.length with
  | [] => none
  | _ :: value => some (name, value)

/-- The attributes with the generators that the class calls for them. -/
def generated (lines : List Text) : List (Text × Text) :=
  (lines.filterMap (between? "            " "(rng),")).filterMap assignment?

/-- How a line reads an attribute from its column. -/
def decoding? (line : Text) : Option Decoding := do
  let inner ← between? "                    " ")," line
  let (name, call) ← assignment? inner
  let rest ← Text.dropLead? call "coerce_nullable(row["
  let (_, width) ← (rest.splitPair ',' ' ').head?.bind fun first =>
    (rest.splitPair ',' ' ')[1]?.map fun second => (first, second)
  return { name, width := ← natural? width }

/-- The class whose lines these are, from its class line on. -/
def class? (lines : List Text) : Option EventClass := do
  let name ← inside? "class " "(Event):" lines
  let table ← (← after? "    TABLE = " lines) |> Literal.value?
  let described ←
    inside? (("    \"\"\"Event type " : Text) ++ Literal.ofText table) ".\"\"\"" lines
  let label := (between? " (" ")" described).getD []
  let timeColumn ← (← after? "    TIME_COLUMN = " lines) |> Literal.value?
  let columns ← tupleValues? (← after? "    COLUMNS = " lines)
  let columnDefinitions ← tuplePairs? (← after? "    COLUMN_DEFS = " lines)
  let widths ← tupleNumbers? (← after? "    WIDTHS = " lines)
  let insertStatement ← (← after? "    INSERT_SQL = " lines) |> Literal.value?
  let selectStatement ← (← after? "    SELECT_SQL = " lines) |> Literal.value?
  let bound ← inside? "                bind_positional(" ")," lines
  let stored ← (listed bound).mapM fun piece => Text.dropLead? piece "self."
  let attributes :=
    ((remarks lines).zip (generated lines)).map fun (remark, call) =>
      { name := remark.1, comment := remark.2, generator := call.2 }
  return {
    name, label, table, timeColumn, columns, columnDefinitions, widths, insertStatement,
    selectStatement, attributes, stored, retrieved := lines.filterMap decoding? }

/-- The lines of each class, in order.  The lines in front of the first class belong to none. -/
def blocksOf (lines : List Text) : List (List Text) :=
  let rec collect (block : List Text) : List Text → List (List Text)
    | [] => [block.reverse]
    | line :: lines =>
        if line = ("@dataclass" : Text) then block.reverse :: collect [] lines
        else collect (line :: block) lines
  (collect [] lines).drop 1

/-- The declarations in the lines of a module. -/
def declarations? (lines : List Text) : Option EventModule := do
  let sourceText ← after? sourceLead lines
  let source ←
    if sourceText = ("None" : Text) then some none else (Literal.value? sourceText).map some
  let fingerprint ← (← after? fingerprintLead lines) |> Literal.value?
  let generators := ((after? generatorsLead lines).map listed).getD []
  let classes ← (blocksOf lines).mapM class?
  return { source, fingerprint, generators, classes }

/-- Whether a text can stand as a name in a module. -/
def isName (text : Text) : Bool :=
  Identifier.isIdentifierText text && !Identifier.moduleWords.contains text

/-- Whether what stands in the lines of a class outside of literals can stand there: names, no
attribute twice, and a label that closes no description. -/
def hasNames (eventClass : EventClass) : Bool :=
  let attributes := eventClass.attributes.map Attribute.name
  let retrieved := eventClass.retrieved.map Decoding.name
  isName eventClass.name && Identifier.isIdentifierText eventClass.table &&
    Identifier.isIdentifierText eventClass.timeColumn &&
    (attributes ++ eventClass.attributes.map Attribute.generator ++ eventClass.stored ++
      retrieved).all isName &&
    attributes.eraseDups = attributes && retrieved.eraseDups = retrieved &&
    EventClass.safeLabel eventClass.label = eventClass.label &&
    !eventClass.label.any CodePoint.isSurrogate

/-- Whether all names in a module are names. -/
def isNamed (module : EventModule) : Bool :=
  module.generators.all isName && module.classes.all hasNames

/-- Whether every line of a module is one line of its text. -/
def isWhole (module : EventModule) : Bool :=
  (lines module).all fun line => !line.contains (CodePoint.ofChar '\n')

/-- The name that marks class methods. -/
def classMark : Text := "classmethod"

/-- The module that a text in the written form declares. -/
def read (text : Text) : Except LoadFault EventModule :=
  match declarations? text.lines with
  | none => .error .foreign
  | some module =>
      if write module ≠ text || !isNamed module || !isWhole module then .error .foreign
      else if module.classes.any fun eventClass => eventClass.attributes.any fun found =>
          found.name = classMark then .error .hiddenMark
      else .ok module

end ModuleText

end EventForge
