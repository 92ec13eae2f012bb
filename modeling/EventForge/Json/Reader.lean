import EventForge.Document.Basic
import EventForge.Number.Reading

/-!
# Reading JSON

JSON text is read in one pass.  Beyond the standard, `NaN`, `Infinity` and `-Infinity` are numbers,
and an escape may name half of a surrogate pair on its own.  A refusal names the place where reading
stopped by line, column and index.
-/

namespace EventForge

/-- What is wrong with a text that is no JSON. -/
inductive JsonFault
  | byteOrderMark
  | value
  | extra
  | colon
  | comma
  | property
  | unterminated
  | control
  | escape
  | unicodeEscape
deriving DecidableEq, Repr

/-- Why a text is not read as JSON. -/
inductive JsonError
  | malformed (fault : JsonFault) (line column position : Nat)
  | integer (fault : IntegerFault)
  /-- Arrays and objects are nested too deeply; `object` tells which kind opens the last level. -/
  | depth (object : Bool)
deriving DecidableEq, Repr

namespace JsonFault

def message : JsonFault → Text
  | .byteOrderMark => "Unexpected UTF-8 BOM (decode using utf-8-sig)"
  | .value => "Expecting value"
  | .extra => "Extra data"
  | .colon => "Expecting ':' delimiter"
  | .comma => "Expecting ',' delimiter"
  | .property => "Expecting property name enclosed in double quotes"
  | .unterminated => "Unterminated string starting at"
  | .control => "Invalid control character at"
  | .escape => "Invalid \\escape"
  | .unicodeEscape => "Invalid \\uXXXX escape"

end JsonFault

namespace JsonError

def message : JsonError → Text
  | .malformed fault line column position =>
      fault.message ++ ": line " ++ Text.ofNat line ++ " column " ++ Text.ofNat column ++
        " (char " ++ Text.ofNat position ++ ")"
  | .integer fault => Reading.integerMessage 10 [] fault
  | .depth object =>
      ("maximum recursion depth exceeded while decoding a JSON " : Text) ++
        (if object then "object" else "array") ++ " from a unicode string"

end JsonError

namespace JsonText

/-- Why reading stopped: a fault and the number of code points left from its place on. -/
inductive Stop
  | at (fault : JsonFault) (left : Nat)
  | integer (fault : IntegerFault)
  | depth (object : Bool)

/-- How many arrays and objects may be open at once. -/
def deepest : Nat := 990

/-- Stops at the front of a text. -/
def stop {Value : Type} (fault : JsonFault) (text : Text) : Except Stop (Value × Text) :=
  .error (.at fault text.length)

def isSpace (point : CodePoint) : Bool :=
  point = ' ' || point = '\t' || point = '\n' || point = '\r'

def skipSpace (text : Text) : Text := text.dropWhile isSpace

/-- Four hexadecimal digits at the front of a text. -/
def fourHex? : Text → Option (Nat × Text)
  | first :: second :: third :: fourth :: rest => do
      let first ← first.hexValue?
      let second ← second.hexValue?
      let third ← third.hexValue?
      let fourth ← fourth.hexValue?
      some (((first * 16 + second) * 16 + third) * 16 + fourth, rest)
  | _ => none

/-- The low half of a surrogate pair, if its escape is at the front of a text.  An escape is looked
at only if more text follows it. -/
def lowHalf (text : Text) : Except Stop (Option Nat × Text) :=
  match text with
  | slash :: letter :: digits =>
      if slash = '\\' && letter = 'u' && 6 < text.length then
        match fourHex? digits with
        | none => stop .unicodeEscape (letter :: digits)
        | some (low, rest) =>
            if 0xDC00 ≤ low && low < 0xE000 then .ok (some low, rest) else .ok (none, text)
      else .ok (none, text)
  | _ => .ok (none, text)

/-- The code point that an escape names by its number; `text` begins with the letter `u`. -/
def unicodeEscape (text : Text) : Except Stop (CodePoint × Text) :=
  if text.length ≤ 5 then stop .unicodeEscape text
  else
    match fourHex? (text.drop 1) with
    | none => stop .unicodeEscape text
    | some (high, rest) =>
        if 0xD800 ≤ high && high < 0xDC00 then
          match lowHalf rest with
          | .error failure => .error failure
          | .ok (none, rest) => .ok (.ofNat high, rest)
          | .ok (some low, rest) =>
              .ok (.ofNat (0x10000 + (high - 0xD800) * 0x400 + (low - 0xDC00)), rest)
        else .ok (.ofNat high, rest)

/-- The code point that a letter behind a backslash stands for. -/
def simpleEscape? (letter : CodePoint) : Option CodePoint :=
  if letter = '"' || letter = '\\' || letter = '/' then some letter
  else if letter = 'b' then some 8
  else if letter = 'f' then some 12
  else if letter = 'n' then some 10
  else if letter = 'r' then some 13
  else if letter = 't' then some 9
  else none

/-- The rest of a string; `opening` is the number of code points left from its opening quote on. -/
def stringBody (opening : Nat) : Nat → Text → Except Stop (Text × Text)
  | 0, _ => .error (.at .unterminated opening)
  | _ + 1, [] => .error (.at .unterminated opening)
  | fuel + 1, point :: rest =>
      if point = '"' then .ok ([], rest)
      else if point = '\\' then
        match rest with
        | [] => .error (.at .unterminated opening)
        | letter :: more => do
            let (meant, more) ←
              if letter = 'u' then unicodeEscape rest
              else
                match simpleEscape? letter with
                | some meant => .ok (meant, more)
                | none => stop .escape (point :: rest)
            let (tail, more) ← stringBody opening fuel more
            return (meant :: tail, more)
      else if point.val < 0x20 then stop .control (point :: rest)
      else do
        let (tail, more) ← stringBody opening fuel rest
        return (point :: tail, more)

/-- A string whose opening quote is at the front of the text. -/
def string (text : Text) : Except Stop (Text × Text) :=
  stringBody text.length text.length (text.drop 1)

/-- The digits at the front of a text and the text behind them. -/
def digitsOf (text : Text) : Text × Text :=
  (text.takeWhile CodePoint.isAsciiDigit, text.dropWhile CodePoint.isAsciiDigit)

/-- A point and digits, if the text begins with them. -/
def fractionOf (text : Text) : Text × Text :=
  match text with
  | point :: rest =>
      let found := digitsOf rest
      if point = '.' && !found.1.isEmpty then (point :: found.1, found.2) else ([], text)
  | [] => ([], [])

/-- An exponent, if the text begins with one. -/
def exponentOf (text : Text) : Text × Text :=
  match text with
  | letter :: rest =>
      if letter = 'e' || letter = 'E' then
        let signed : Text × Text :=
          match rest with
          | sign :: more => if sign = '-' || sign = '+' then ([sign], more) else ([], rest)
          | [] => ([], [])
        let found := digitsOf signed.2
        if found.1.isEmpty then ([], text) else (letter :: signed.1 ++ found.1, found.2)
      else ([], text)
  | [] => ([], [])

/-- A number at the front of a text. -/
def number (text : Text) : Except Stop (Document × Text) :=
  let signed : Text × Text :=
    match text with
    | point :: rest => if point = '-' then ([point], rest) else ([], text)
    | [] => ([], [])
  let whole : Text × Text :=
    match signed.2 with
    | point :: rest => if point = '0' then ([point], rest) else digitsOf signed.2
    | [] => ([], [])
  if whole.1.isEmpty then stop .value text
  else
    let fraction := fractionOf whole.2
    let exponent := exponentOf fraction.2
    let shown := signed.1 ++ whole.1 ++ fraction.1 ++ exponent.1
    if fraction.1.isEmpty && exponent.1.isEmpty then
      match Reading.integer 10 shown with
      | .ok value => .ok (.integer value, exponent.2)
      | .error fault => .error (.integer fault)
    else .ok (.float ((Reading.float? shown).getD 0), exponent.2)

/-- The words that stand for a value of their own. -/
def words : List (Text × Document) :=
  [("null", .null), ("true", .bool true), ("false", .bool false), ("NaN", .float (0.0 / 0.0)),
    ("Infinity", .float (1.0 / 0.0)), ("-Infinity", .float (-1.0 / 0.0))]

/-- The word at the front of a text, if there is one. -/
def word? (text : Text) : Option (Document × Text) :=
  words.findSome? fun entry => (Text.dropLead? text entry.1).map fun rest => (entry.2, rest)

mutual

/-- A value at the front of a text; `room` is how many more arrays and objects may open. -/
def value (room : Nat) : Nat → Text → Except Stop (Document × Text)
  | 0, text => stop .value text
  | _ + 1, [] => stop .value []
  | fuel + 1, point :: rest =>
      if point = '"' then do
        let (content, more) ← string (point :: rest)
        return (.text content, more)
      else if (point = '\x7b' || point = '[') && room = 0 then .error (.depth (point = '\x7b'))
      else if point = '\x7b' then
        match skipSpace rest with
        | [] => stop .property []
        | next :: more =>
            if next = '\x7d' then .ok (.mapping [], more)
            else do
              let (entries, more) ← members (room - 1) fuel [] (next :: more)
              return (.mapping entries, more)
      else if point = '[' then
        match skipSpace rest with
        | [] => stop .value []
        | next :: more =>
            if next = ']' then .ok (.list [], more)
            else do
              let (items, more) ← elements (room - 1) fuel (next :: more)
              return (.list items, more)
      else
        match word? (point :: rest) with
        | some found => .ok found
        | none => number (point :: rest)

/-- The members of an object up to its closing brace, added to those already read. -/
def members (room fuel : Nat) (entries : List (Document × Document)) (text : Text) :
    Except Stop (List (Document × Document) × Text) :=
  match fuel with
  | 0 => stop .property text
  | fuel + 1 =>
      match text with
      | [] => stop .property []
      | point :: rest =>
          if point = '"' then do
            let (key, more) ← string (point :: rest)
            match skipSpace more with
            | [] => stop .colon []
            | colon :: more =>
                if colon = ':' then do
                  let (content, more) ← value room fuel (skipSpace more)
                  let entries := Document.insertEntry (.text key) content entries
                  match skipSpace more with
                  | [] => stop .comma []
                  | mark :: more =>
                      if mark = '\x7d' then .ok (entries, more)
                      else if mark = ',' then members room fuel entries (skipSpace more)
                      else stop .comma (mark :: more)
                else stop .colon (colon :: more)
          else stop .property (point :: rest)

/-- The elements of an array up to its closing bracket. -/
def elements (room fuel : Nat) (text : Text) : Except Stop (List Document × Text) :=
  match fuel with
  | 0 => stop .value text
  | fuel + 1 => do
      let (item, more) ← value room fuel text
      match skipSpace more with
      | [] => stop .comma []
      | mark :: more =>
          if mark = ']' then .ok ([item], more)
          else if mark = ',' then do
            let (items, more) ← elements room fuel (skipSpace more)
            return (item :: items, more)
          else stop .comma (mark :: more)

end

/-- The error for a fault at an index of a text. -/
def malformed (text : Text) (fault : JsonFault) (position : Nat) : JsonError :=
  let before := text.take position
  .malformed fault (1 + before.count CodePoint.lineFeed)
    (1 + (before.reverse.takeWhile (· ≠ CodePoint.lineFeed)).length) position

/-- Reads a whole text as one value. -/
def read (text : Text) : Except JsonError Document :=
  if text.head? = some 0xFEFF then .error (malformed text .byteOrderMark 0)
  else
    let outcome : Except Stop (Document × Text) := do
      let (document, rest) ← value deepest (2 * text.length + 2) (skipSpace text)
      match skipSpace rest with
      | [] => return (document, [])
      | point :: rest => stop .extra (point :: rest)
    match outcome with
    | .ok (document, _) => .ok document
    | .error (.at fault left) => .error (malformed text fault (text.length - left))
    | .error (.integer fault) => .error (.integer fault)
    | .error (.depth object) => .error (.depth object)

end JsonText

end EventForge
