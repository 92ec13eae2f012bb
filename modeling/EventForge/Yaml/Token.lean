import EventForge.Document.Basic
import EventForge.Fault
import EventForge.Number.Reading
import EventForge.Text.Basic
import EventForge.Text.Utf8

/-!
# YAML tokens

The tokens of a YAML text, among them those that indentation implies, and the readers for the tokens
that hold text: directives, names, tags and scalars in their five styles.
-/

namespace EventForge

/-!
## Positions in a document

Where reading stands, and the faults that end it.
-/

/-!
### Why a YAML text is refused

Most refusals only say that the text is no YAML document.  A text can also be well formed and hold a
scalar that has no value: a number too long to read, a date that does not exist, an escape beyond
the last code point.
-/

/-- Why a YAML text has no value. -/
inductive YamlFault
  /-- The text breaks the rules of the format. -/
  | malformed
  /-- An escape names a number beyond the last code point. -/
  | codePoint
  /-- An escape names a number that does not fit a signed 32-bit integer. -/
  | wideCodePoint
  /-- An integer scalar that is no integer; `shown` is the part that was read. -/
  | integer (base : Nat) (shown : Text) (fault : IntegerFault)
  /-- A decimal scalar that is no decimal number. -/
  | decimal (shown : Text)
  /-- A sum of sexagesimal digits whose place value exceeds every double. -/
  | placeValue
  /-- A date or moment with a part that does not exist. -/
  | calendar (fault : CalendarFault)
  /-- A scalar marked as a moment that does not have the form of one. -/
  | noMoment
  /-- A scalar marked as a truth value that is no word for one. -/
  | truth (word : Text)
  /-- A number without any digit. -/
  | emptyNumber
  /-- A map with a default key that is marked as a moment. -/
  | momentOfMap
  /-- Lists and maps are nested too deeply. -/
  | depth
deriving DecidableEq, Repr

namespace YamlFault

/-- The message of a fault; a text that is no YAML only has a mark for it. -/
def message : YamlFault → Text
  | .malformed => "<yaml>"
  | .codePoint => "chr() arg not in range(0x110000)"
  | .wideCodePoint => "Python int too large to convert to C int"
  | .integer base shown fault =>
      Reading.integerMessage base (Quoted.ofText shown) fault
  | .decimal shown => Reading.floatMessage shown
  | .placeValue => "int too large to convert to float"
  | .calendar fault => fault.message
  | .noMoment => "'NoneType' object has no attribute 'groupdict'"
  | .truth word => Quoted.ofText word
  | .emptyNumber => "string index out of range"
  | .momentOfMap => "expected string or bytes-like object, got 'list'"
  | .depth => "maximum recursion depth exceeded"

def kind : YamlFault → FaultKind
  | .malformed => .yamlSyntax
  | .codePoint | .integer _ _ _ | .decimal _ | .calendar _ => .value
  | .wideCodePoint | .placeValue => .overflow
  | .noMoment => .attribute
  | .truth _ => .key
  | .emptyNumber => .index
  | .momentOfMap => .type
  | .depth => .nesting

def fault (fault : YamlFault) : Fault := Fault.plain fault.kind fault.message

end YamlFault

/-!
### Places in a YAML text

A cursor is the rest of a text together with the place where it begins: its index, line and column.
Five code points end a line; a carriage return and a line feed together end one line.
-/

namespace Yaml

/-- Whether a code point ends a line. -/
def isBreak (point : CodePoint) : Bool :=
  point.val = 0x0A || point.val = 0x0D || point.val = 0x85 || point.val = 0x2028 ||
    point.val = 0x2029

def isSpace (point : CodePoint) : Bool := point.val = 0x20

def isSpaceOrTab (point : CodePoint) : Bool := point.val = 0x20 || point.val = 0x09

/-- Letters, digits, hyphen and underscore make names. -/
def isNamePoint (point : CodePoint) : Bool :=
  point.isAsciiAlphanumeric || point = '-' || point = '_'

/-- Whether a text is among the code points of a string. -/
def isOneOf (points : String) (point : CodePoint) : Bool := (Text.ofString points).contains point

/-- The end of the text or of a line, or a space. -/
def endsWord : Option CodePoint → Bool
  | none => true
  | some point => isBreak point || isSpace point

/-- The end of the text or of a line, a space or a tabulator. -/
def endsToken : Option CodePoint → Bool
  | none => true
  | some point => isBreak point || isSpaceOrTab point

/-- The rest of a text and the place where it begins. -/
structure Cursor where
  rest : Text
  index : Nat
  line : Nat
  column : Nat

namespace Cursor

/-- The beginning of a text. -/
def start (text : Text) : Cursor := { rest := text, index := 0, line := 0, column := 0 }

/-- The code point at a distance from the cursor. -/
def peek (cursor : Cursor) (distance : Nat) : Option CodePoint := cursor.rest[distance]?

/-- Whether the next code point is the given one. -/
def at? (cursor : Cursor) (point : CodePoint) : Bool := cursor.peek 0 == some point

/-- The cursor behind the next code point.  A byte order mark takes no column. -/
def next (cursor : Cursor) : Cursor :=
  match cursor.rest with
  | [] => cursor
  | point :: rest =>
      let followed := rest.head? == some CodePoint.lineFeed
      if isBreak point && !(point.val = 0x0D && followed) then
        { rest, index := cursor.index + 1, line := cursor.line + 1, column := 0 }
      else
        { cursor with
          rest
          index := cursor.index + 1
          column := if point.val = 0xFEFF then cursor.column else cursor.column + 1 }

/-- The cursor behind the next `count` code points. -/
def skip (cursor : Cursor) : Nat → Cursor
  | 0 => cursor
  | count + 1 => cursor.next.skip count

/-- The longest run of code points that satisfy a condition, and the cursor behind it. -/
def span (keep : CodePoint → Bool) (cursor : Cursor) : Text × Cursor :=
  let taken := cursor.rest.takeWhile keep
  (taken, cursor.skip taken.length)

def skipWhile (keep : CodePoint → Bool) (cursor : Cursor) : Cursor := (cursor.span keep).2

/-- The line end at the cursor and the cursor behind it.  All but the two separators of paragraphs
and lines read as a line feed. -/
def lineBreak? (cursor : Cursor) : Option (CodePoint × Cursor) :=
  match cursor.rest with
  | [] => none
  | point :: rest =>
      if point.val = 0x0D && rest.head? == some CodePoint.lineFeed then
        some (CodePoint.lineFeed, cursor.skip 2)
      else if isBreak point then
        some (if point.val < 0x100 then CodePoint.lineFeed else point, cursor.next)
      else none

/-- Whether a line that begins at the cursor is a document mark. -/
def atDocumentMark (cursor : Cursor) : Bool :=
  (cursor.rest.take 3 == ("---" : Text) || cursor.rest.take 3 == ("..." : Text)) &&
    endsToken (cursor.peek 3)

/-- The cursor behind a comment, if there is one. -/
def skipComment (cursor : Cursor) : Cursor :=
  if cursor.at? '#' then cursor.skipWhile fun point => !isBreak point else cursor

end Cursor

end Yaml

/-!
## Tokens
-/

namespace Yaml

inductive Token
  | version (major : Int)
  | tagLead (handle lead : Text)
  | otherDirective
  | documentStart
  | documentEnd
  | streamEnd
  | flowListStart
  | flowListEnd
  | flowMapStart
  | flowMapEnd
  | flowEntry
  | blockListStart
  | blockMapStart
  | blockEnd
  | blockEntry
  | key
  | value
  | reference (name : Text)
  | anchor (name : Text)
  | tag (handle : Option Text) (suffix : Text)
  | scalar (content : Text) (plain : Bool)
deriving DecidableEq, Repr

/-- A text that breaks the rules of the format. -/
def malformed {Value : Type} : Except YamlFault Value := .error .malformed

/-- The cursor behind the blanks, the comment and the end of a line on which nothing else may
stand. -/
def finishLine (cursor : Cursor) : Except YamlFault Cursor :=
  let cursor := (cursor.skipWhile isSpace).skipComment
  match cursor.lineBreak? with
  | some (_, cursor) => .ok cursor
  | none => if cursor.rest.isEmpty then .ok cursor else malformed

/-- A name of letters, digits, hyphens and underscores. -/
def nameAt (cursor : Cursor) : Except YamlFault (Text × Cursor) :=
  let found := cursor.span isNamePoint
  if found.1.isEmpty then malformed else .ok found

/-- The name of an anchor or alias behind its mark. -/
def anchorAt (cursor : Cursor) : Except YamlFault (Text × Cursor) := do
  let (name, cursor) ← nameAt cursor.next
  let following := cursor.peek 0
  if endsToken following || following.any (isOneOf "?:,]\x7d%@\x60") then return (name, cursor)
  malformed

/-- A tag handle: an exclamation mark, or two of them with a name between. -/
def handleAt (cursor : Cursor) : Except YamlFault (Text × Cursor) :=
  if !cursor.at? '!' then malformed
  else if cursor.peek 1 == some (CodePoint.ofChar ' ') then .ok (("!" : Text), cursor.next)
  else
    let (name, behind) := cursor.next.span isNamePoint
    if behind.at? '!' then .ok (("!" : Text) ++ name ++ ("!" : Text), behind.next) else malformed

def isUriPoint (point : CodePoint) : Bool :=
  point.isAsciiAlphanumeric || isOneOf "-;/?:@&=+$,_.!~*'()[]%" point

/-- The bytes of a run of percent escapes. -/
def escapedBytes : Nat → Cursor → Except YamlFault (List UInt8 × Cursor)
  | 0, cursor => .ok ([], cursor)
  | fuel + 1, cursor =>
      if cursor.at? '%' then
        match (cursor.peek 1).bind CodePoint.hexValue?,
            (cursor.peek 2).bind CodePoint.hexValue? with
        | some high, some low => do
            let (bytes, cursor) ← escapedBytes fuel (cursor.skip 3)
            return ((high * 16 + low).toUInt8 :: bytes, cursor)
        | _, _ => malformed
      else .ok ([], cursor)

/-- Decodes the bytes of percent escapes. -/
def escapedText (bytes : List UInt8) : Except YamlFault Text :=
  match Utf8.decode bytes with
  | .ok text => .ok text
  | .error _ => malformed

/-- The pieces of a tag's address. -/
def uriPieces : Nat → Cursor → Except YamlFault (Text × Cursor)
  | 0, cursor => .ok ([], cursor)
  | fuel + 1, cursor =>
      match cursor.peek 0 with
      | none => .ok ([], cursor)
      | some point =>
          if point = '%' then do
            let (bytes, cursor) ← escapedBytes cursor.rest.length cursor
            let piece ← escapedText bytes
            let (pieces, cursor) ← uriPieces fuel cursor
            return (piece ++ pieces, cursor)
          else if isUriPoint point then do
            let (pieces, cursor) ← uriPieces fuel cursor.next
            return (point :: pieces, cursor)
          else .ok ([], cursor)

/-- The address of a tag; it must not be empty. -/
def uriAt (cursor : Cursor) : Except YamlFault (Text × Cursor) :=
  if (cursor.peek 0).any isUriPoint then uriPieces (cursor.rest.length + 1) cursor else malformed

/-- The tag at a cursor. -/
def tagAt (cursor : Cursor) : Except YamlFault (Token × Cursor) := do
  let second := cursor.peek 1
  let (token, cursor) ←
    if second == some (CodePoint.ofChar '<') then do
      let (suffix, cursor) ← uriAt (cursor.skip 2)
      if cursor.at? '>' then pure (Token.tag none suffix, cursor.next) else malformed
    else if endsToken second then pure (Token.tag none "!", cursor.next)
    else do
      let word := cursor.next.rest.takeWhile fun point => !endsWord (some point)
      let (handle, cursor) ←
        if word.contains (CodePoint.ofChar '!') then handleAt cursor
        else pure (("!" : Text), cursor.next)
      let (suffix, cursor) ← uriAt cursor
      pure (Token.tag (some handle) suffix, cursor)
  if endsWord (cursor.peek 0) then return (token, cursor)
  malformed

/-- A decimal number in a version directive. -/
def versionNumberAt (cursor : Cursor) : Except YamlFault (Int × Cursor) := do
  let (digits, behind) := cursor.span CodePoint.isAsciiDigit
  if digits.isEmpty then malformed
  let number ← (Reading.integer 10 digits).mapError (YamlFault.integer 10 digits)
  return (number, behind)

/-- The directive at a cursor, to the end of its line. -/
def directiveAt (cursor : Cursor) : Except YamlFault (Token × Cursor) := do
  let (name, cursor) ← nameAt cursor.next
  if !endsWord (cursor.peek 0) then malformed
  let (token, cursor) ←
    if name = ("YAML" : Text) then do
      let (major, cursor) ← versionNumberAt (cursor.skipWhile isSpace)
      if !cursor.at? '.' then malformed
      let (_, cursor) ← versionNumberAt cursor.next
      if endsWord (cursor.peek 0) then pure (Token.version major, cursor) else malformed
    else if name = ("TAG" : Text) then do
      let (handle, cursor) ← handleAt (cursor.skipWhile isSpace)
      if !cursor.at? ' ' then malformed
      let (lead, cursor) ← uriAt (cursor.skipWhile isSpace)
      if endsWord (cursor.peek 0) then pure (Token.tagLead handle lead, cursor) else malformed
    else pure (Token.otherDirective, cursor.skipWhile fun point => !isBreak point)
  let cursor ← finishLine cursor
  return (token, cursor)

/-- Which line ends at the close of a block scalar stay. -/
inductive Chomping
  | strip
  | clip
  | keep
deriving DecidableEq, Repr

def chompingMark? : Option CodePoint → Option Chomping
  | none => none
  | some point => if point = '+' then some .keep else if point = '-' then some .strip else none

def indentMark? (point : Option CodePoint) : Option Nat :=
  point.bind fun point => if point.isAsciiDigit then some (point.val - 48) else none

/-- The marks behind the opening of a block scalar: its chomping and its indentation, in either
order. -/
def blockHeader (cursor : Cursor) : Except YamlFault ((Chomping × Option Nat) × Cursor) := do
  let (chomping, increment, cursor) :=
    match chompingMark? (cursor.peek 0), indentMark? (cursor.peek 0) with
    | some chomping, _ =>
        match indentMark? (cursor.peek 1) with
        | some increment => (chomping, some increment, cursor.skip 2)
        | none => (chomping, none, cursor.next)
    | none, some increment =>
        match chompingMark? (cursor.peek 1) with
        | some chomping => (chomping, some increment, cursor.skip 2)
        | none => (Chomping.clip, some increment, cursor.next)
    | none, none => (Chomping.clip, none, cursor)
  if increment = some 0 then malformed
  if endsWord (cursor.peek 0) then return ((chomping, increment), cursor)
  malformed

/-- Blank lines in front of a block scalar and the widest indentation among them. -/
def leadingBreaks (widest : Nat) : Nat → Cursor → Text × Nat × Cursor
  | 0, cursor => ([], widest, cursor)
  | fuel + 1, cursor =>
      if cursor.at? ' ' then
        leadingBreaks (max widest cursor.next.column) fuel cursor.next
      else
        match cursor.lineBreak? with
        | some (point, cursor) =>
            let (points, widest, cursor) := leadingBreaks widest fuel cursor
            (point :: points, widest, cursor)
        | none => ([], widest, cursor)

/-- The cursor behind the spaces up to a column. -/
def skipIndent (indent : Nat) (cursor : Cursor) : Cursor :=
  cursor.skip (((cursor.rest.take (indent - cursor.column)).takeWhile isSpace).length)

/-- Blank lines inside a block scalar. -/
def innerBreaks (indent : Nat) : Nat → Cursor → Text × Cursor
  | 0, cursor => ([], cursor)
  | fuel + 1, cursor =>
      match (skipIndent indent cursor).lineBreak? with
      | some (point, cursor) =>
          let (points, cursor) := innerBreaks indent fuel cursor
          (point :: points, cursor)
      | none => ([], skipIndent indent cursor)

/-- The lines of a block scalar from the first that is not blank; `breaks` are the line ends in
front of it. -/
def blockLines (folded : Bool) (chomping : Chomping) (indent : Nat) (breaks : Text) :
    Nat → Cursor → Text × Cursor
  | 0, cursor => ([], cursor)
  | fuel + 1, cursor =>
      let spaced := (cursor.peek 0).any isSpaceOrTab
      let (line, cursor) := cursor.span fun point => !isBreak point
      let (ending, cursor) : Text × Cursor :=
        match cursor.lineBreak? with
        | some (point, cursor) => ([point], cursor)
        | none => ([], cursor)
      let (more, cursor) := innerBreaks indent cursor.rest.length.succ cursor
      if cursor.column = indent && !cursor.rest.isEmpty then
        let joint : Text :=
          if folded && ending = [CodePoint.lineFeed] && !spaced &&
              !(cursor.peek 0).any isSpaceOrTab then
            if more.isEmpty then " " else []
          else ending
        let (tail, cursor) := blockLines folded chomping indent more fuel cursor
        (breaks ++ line ++ joint ++ tail, cursor)
      else
        let close : Text :=
          match chomping with
          | .strip => []
          | .clip => ending
          | .keep => ending ++ more
        (breaks ++ line ++ close, cursor)

/-- The block scalar at a cursor, inside a block that is indented by `outer`. -/
def blockScalarAt (outer : Int) (cursor : Cursor) : Except YamlFault (Token × Cursor) := do
  let folded := cursor.at? '>'
  let ((chomping, increment), cursor) ← blockHeader cursor.next
  let cursor ← finishLine cursor
  let least := max (outer + 1) 1 |>.toNat
  let fuel := cursor.rest.length.succ
  let (breaks, indent, cursor) :=
    match increment with
    | none =>
        let (breaks, widest, cursor) := leadingBreaks 0 fuel cursor
        (breaks, max least widest, cursor)
    | some increment =>
        let indent := least + increment - 1
        let (breaks, cursor) := innerBreaks indent fuel cursor
        (breaks, indent, cursor)
  if cursor.column = indent && !cursor.rest.isEmpty then
    let (content, cursor) := blockLines folded chomping indent breaks fuel cursor
    return (Token.scalar content false, cursor)
  let content := if chomping = .keep then breaks else []
  return (Token.scalar content false, cursor)

/-- What a letter behind a backslash stands for. -/
def simpleEscapes : List (Char × Nat) :=
  [('0', 0x00), ('a', 0x07), ('b', 0x08), ('t', 0x09), ('\t', 0x09), ('n', 0x0A), ('v', 0x0B),
    ('f', 0x0C), ('r', 0x0D), ('e', 0x1B), (' ', 0x20), ('"', 0x22), ('\\', 0x5C), ('/', 0x2F),
    ('N', 0x85), ('_', 0xA0), ('L', 0x2028), ('P', 0x2029)]

def simpleEscape? (letter : CodePoint) : Option CodePoint :=
  (simpleEscapes.find? fun entry => CodePoint.ofChar entry.1 == letter).map fun entry =>
    CodePoint.ofNat entry.2

/-- How many hexadecimal digits follow a letter behind a backslash. -/
def numericEscape? (letter : CodePoint) : Option Nat :=
  if letter = 'x' then some 2
  else if letter = 'u' then some 4
  else if letter = 'U' then some 8
  else none

/-- The code point with a number from an escape. -/
def escapedPoint (number : Nat) : Except YamlFault CodePoint :=
  if bound : number < 0x110000 then .ok ⟨number, bound⟩
  else if number < 0x80000000 then .error .codePoint
  else .error .wideCodePoint

/-- The number that some hexadecimal digits at a cursor name. -/
def hexNumberAt (count : Nat) (cursor : Cursor) : Except YamlFault Nat :=
  let digits := (cursor.rest.take count).filterMap CodePoint.hexValue?
  if digits.length = count then .ok (digits.foldl (fun number digit => number * 16 + digit) 0)
  else malformed

/-- Blank lines inside a quoted scalar, up to the first point of the next line. -/
def quotedBreaks : Nat → Cursor → Except YamlFault (Text × Cursor)
  | 0, cursor => .ok ([], cursor)
  | fuel + 1, cursor =>
      if cursor.atDocumentMark then malformed
      else
        let cursor := cursor.skipWhile isSpaceOrTab
        match cursor.lineBreak? with
        | some (point, cursor) => do
            let (points, cursor) ← quotedBreaks fuel cursor
            return (point :: points, cursor)
        | none => .ok ([], cursor)

/-- The rest of a quoted scalar, to its closing quote. -/
def quotedRest (double : Bool) : Nat → Cursor → Except YamlFault (Text × Cursor)
  | 0, _ => malformed
  | fuel + 1, cursor =>
      match cursor.peek 0 with
      | none => malformed
      | some point =>
          if isSpaceOrTab point || isBreak point then do
            let (blanks, cursor) := cursor.span isSpaceOrTab
            if cursor.rest.isEmpty then malformed
            let (piece, cursor) : Text × Cursor ←
              match cursor.lineBreak? with
              | none => pure (blanks, cursor)
              | some (ending, cursor) => do
                  let (breaks, cursor) ← quotedBreaks cursor.rest.length.succ cursor
                  let joint : Text :=
                    if ending ≠ CodePoint.lineFeed then [ending]
                    else if breaks.isEmpty then " "
                    else []
                  pure (joint ++ breaks, cursor)
            let (tail, cursor) ← quotedRest double fuel cursor
            return (piece ++ tail, cursor)
          else if point = '\'' && !double then
            if cursor.peek 1 == some (CodePoint.ofChar '\'') then do
              let (tail, cursor) ← quotedRest double fuel (cursor.skip 2)
              return (point :: tail, cursor)
            else .ok ([], cursor.next)
          else if point = '"' && double then .ok ([], cursor.next)
          else if point = '\\' && double then
            match cursor.peek 1 with
            | none => malformed
            | some letter => do
                let (piece, cursor) : Text × Cursor ←
                  match simpleEscape? letter, numericEscape? letter, cursor.next.lineBreak? with
                  | some meant, _, _ => pure ([meant], cursor.skip 2)
                  | none, some count, _ => do
                      let number ← hexNumberAt count (cursor.skip 2)
                      let meant ← escapedPoint number
                      pure ([meant], cursor.skip (2 + count))
                  | none, none, some (_, cursor) =>
                      quotedBreaks cursor.rest.length.succ cursor
                  | none, none, none => malformed
                let (tail, cursor) ← quotedRest double fuel cursor
                return (piece ++ tail, cursor)
          else do
            let (tail, cursor) ← quotedRest double fuel cursor.next
            return (point :: tail, cursor)

/-- The quoted scalar at a cursor. -/
def quotedScalarAt (cursor : Cursor) : Except YamlFault (Token × Cursor) := do
  let (content, cursor) ←
    quotedRest (cursor.at? '"') cursor.rest.length.succ cursor.next
  return (Token.scalar content false, cursor)

/-- How many code points from the cursor on belong to one run of a plain scalar. -/
def plainRun (inFlow : Bool) : Text → Nat
  | [] => 0
  | point :: rest =>
      let colonEnds :=
        endsToken rest.head? || (inFlow && rest.head?.any (isOneOf ",[]\x7b\x7d"))
      if isBreak point || isSpaceOrTab point || (point = ':' && colonEnds) ||
          (inFlow && isOneOf ",?[]\x7b\x7d" point) then 0
      else plainRun inFlow rest + 1

/-- Blank lines inside a plain scalar; nothing is left of them if a document mark follows. -/
def plainBreaks : Nat → Cursor → Option Text × Cursor
  | 0, cursor => (some [], cursor)
  | fuel + 1, cursor =>
      if cursor.at? ' ' then plainBreaks fuel cursor.next
      else
        match cursor.lineBreak? with
        | none => (some [], cursor)
        | some (point, cursor) =>
            if cursor.atDocumentMark then (none, cursor)
            else
              let (points, cursor) := plainBreaks fuel cursor
              (points.map (point :: ·), cursor)

/-- The blanks behind a run of a plain scalar as they read between two runs, whether they contain a
line end, and the cursor behind them. -/
def plainSpaces (cursor : Cursor) : Text × Bool × Cursor :=
  let (blanks, cursor) := cursor.span isSpace
  match cursor.lineBreak? with
  | none => (blanks, false, cursor)
  | some (ending, cursor) =>
      if cursor.atDocumentMark then ([], true, cursor)
      else
        match plainBreaks cursor.rest.length.succ cursor with
        | (none, cursor) => ([], true, cursor)
        | (some breaks, cursor) =>
            let joint : Text :=
              if ending ≠ CodePoint.lineFeed then [ending]
              else if breaks.isEmpty then " "
              else []
            (joint ++ breaks, true, cursor)

/-- The runs of a plain scalar with the blanks between them; the truth value says whether the last
blanks contain a line end. -/
def plainRuns (inFlow : Bool) (indent : Int) (spaces : Text) (broken : Bool) :
    Nat → Cursor → Text × Bool × Cursor
  | 0, cursor => ([], broken, cursor)
  | fuel + 1, cursor =>
      let count := plainRun inFlow cursor.rest
      if cursor.at? '#' || count = 0 then ([], broken, cursor)
      else
        let run := cursor.rest.take count
        let (following, brokenHere, cursor) := plainSpaces (cursor.skip count)
        if following.isEmpty || cursor.at? '#' || (!inFlow && (cursor.column : Int) < indent) then
          (spaces ++ run, brokenHere, cursor)
        else
          let (tail, broken, cursor) :=
            plainRuns inFlow indent following brokenHere fuel cursor
          (spaces ++ run ++ tail, broken, cursor)

end Yaml

end EventForge
