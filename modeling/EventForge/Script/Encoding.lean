import EventForge.Module.Writer
import EventForge.Script.Token

/-!
# The encoding of scripts

A script is UTF-8 unless a comment in one of its first two lines names another encoding.  Without
such a comment the bytes that encode nothing are kept as marks: they are refused only where a token
holds them.
-/

namespace EventForge

/-- The encodings that a script can name. -/
inductive ScriptEncoding
  | utf8
  | latin
  | ascii
  /-- Latin with letters and signs in place of the upper control characters. -/
  | windows
deriving DecidableEq, Repr

namespace ScriptEncoding

/-- The names of the encodings, in lower case and with underscores for other signs. -/
def names : List (ScriptEncoding × List String) := [
  (.utf8, ["cp65001", "u8", "utf", "utf8", "utf8_ucs2", "utf8_ucs4", "utf_8"]),
  (.latin, ["8859", "cp819", "csisolatin1", "ibm819", "iso8859", "iso8859_1", "iso_8859_1",
    "iso_8859_1_1987", "iso_ir_100", "l1", "latin", "latin1", "latin_1"]),
  (.ascii, ["646", "ansi_x3.4_1968", "ansi_x3.4_1986", "ansi_x3_4_1968", "ascii", "cp367",
    "csascii", "ibm367", "iso646_us", "iso_646.irv_1991", "iso_ir_6", "us", "us_ascii"]),
  (.windows, ["1252", "cp1252", "windows_1252"])]

/-- The form in which names are compared. -/
def plainName (name : Text) : Text :=
  let spaced : Text := name.toAsciiLower.map fun (point : CodePoint) =>
    if point.isAsciiAlphanumeric || point = '.' then point else CodePoint.ofChar ' '
  Text.join "_" ((Text.splitAt ' ' spaced).filter fun part => !part.isEmpty)

/-- The encoding with a name. -/
def ofName? (name : Text) : Option ScriptEncoding :=
  (names.find? fun entry =>
    entry.2.any fun known => Text.ofString known = plainName name).map (·.1)

/-- A name, with one spelling for the best known encodings. -/
def usualName (name : Text) : Text :=
  let first : Text := name.take 12
  let short := first.toAsciiLower.replacePoint '_' '-'
  let isSpelling (known : Text) : Bool := short = known || short.startsWith (known ++ "-")
  if isSpelling "utf-8" then "utf-8"
  else if ["latin-1", "iso-8859-1", "iso-latin-1"].any fun known =>
      isSpelling (Text.ofString known) then "iso-8859-1"
  else name

def isBlank (point : CodePoint) : Bool := point = ' ' || point.val = 0x09 || point.val = 0x0C

/-- Whether a code point can be part of the name of an encoding. -/
def isNamePoint (point : CodePoint) : Bool :=
  point.isAsciiAlphanumeric || point = '-' || point = '_' || point = '.'

/-- The first name of an encoding in a comment. -/
def nameIn? : Text → Option Text
  | [] => none
  | point :: rest =>
      let found : Option Text := do
        let behind ← Text.dropLead? (point :: rest) "coding"
        let mark ← behind.head?
        let behindBlanks : Text := (behind.drop 1).dropWhile fun (next : CodePoint) =>
          next = ' ' || next.val = 0x09
        let name : Text := behindBlanks.takeWhile isNamePoint
        if (mark = ':' || mark = '=') && !name.isEmpty then some name else none
      match found with
      | some name => some name
      | none => nameIn? rest

/-- The name of an encoding in a line that holds nothing but a comment. -/
def nameOfLine? (line : Text) : Option Text :=
  let content : Text := line.dropWhile isBlank
  if content.startsWith "#" then nameIn? content else none

/-- The name of the encoding of a script.  The second line counts only if the first one holds
nothing but a comment. -/
def nameOf? (text : Text) : Option Text :=
  match text.lines with
  | first :: second :: _ =>
      let content : Text := first.dropWhile isBlank
      nameOfLine? first <|>
        if content.isEmpty || content.startsWith "#" then nameOfLine? second else none
  | lines => lines.head?.bind nameOfLine?

/-- The bytes from `0x80` to `0x9F` in the encoding `windows`; those at zero stand for nothing. -/
def windowsSigns : List Nat := [
  0x20AC, 0, 0x201A, 0x0192, 0x201E, 0x2026, 0x2020, 0x2021, 0x02C6, 0x2030, 0x0160, 0x2039, 0x0152,
  0, 0x017D, 0, 0, 0x2018, 0x2019, 0x201C, 0x201D, 0x2022, 0x2013, 0x2014, 0x02DC, 0x2122, 0x0161,
  0x203A, 0x0153, 0, 0x017E, 0x0178]

/-- The code point that a byte stands for in an encoding with one byte for each. -/
def pointOf? (encoding : ScriptEncoding) (byte : UInt8) : Option CodePoint :=
  let number := byte.toNat
  match encoding with
  | .ascii | .utf8 => if number < 0x80 then some (CodePoint.ofNat number) else none
  | .latin => some (CodePoint.ofNat number)
  | .windows =>
      if 0x80 ≤ number && number < 0xA0 then
        ((windowsSigns[number - 0x80]?).filter fun sign => sign ≠ 0).map CodePoint.ofNat
      else some (CodePoint.ofNat number)

/-- The refusal of a byte at a position. -/
def refusedByte (encoding : ScriptEncoding) (byte : UInt8) (position : Nat) : Text :=
  let (name, reason) : Text × Text :=
    if encoding = .windows then ("charmap", "character maps to <undefined>")
    else ("ascii", "ordinal not in range(128)")
  Quoted.ofText name ++ " codec can't decode byte 0x" ++ Text.ofHex 2 byte.toNat ++
    " in position " ++ Text.ofNat position ++ ": " ++ reason

/-- The text of bytes, each of which stands for a code point. -/
def pointsFrom (encoding : ScriptEncoding) (position : Nat) : Bytes → Except Text Text
  | [] => .ok []
  | byte :: bytes =>
      match pointOf? encoding byte with
      | none => .error (refusedByte encoding byte position)
      | some point => (pointsFrom encoding (position + 1) bytes).map fun text => point :: text

/-- The text that bytes stand for. -/
def decode (encoding : ScriptEncoding) (bytes : Bytes) : Except Text Text :=
  match encoding with
  | .utf8 => (Utf8.decode bytes).mapError Utf8DecodeError.message
  | _ => pointsFrom encoding 0 bytes

end ScriptEncoding

namespace Script

/-- The mark of a byte that encodes nothing. -/
def markOf (byte : UInt8) : CodePoint := CodePoint.ofNat (0xDC00 + byte.toNat)

/-- The text of bytes with marks; `pending` bytes belong to the code point that was read last. -/
def markedFrom (pending : Nat) : Bytes → Text
  | [] => []
  | byte :: rest =>
      match pending with
      | pending + 1 => markedFrom pending rest
      | 0 =>
          match Utf8.decodeFirst byte rest with
          | .ok (point, length) => point :: markedFrom (length - 1) rest
          | .error _ => markOf byte :: markedFrom 0 rest

/-- The sign in front of a text that marks it as UTF-8. -/
def byteOrderMark : CodePoint := 0xFEFF

/-- The text of a script in the encoding that it names; every line ends with a line feed. -/
def textOf (content : Bytes) : Except ScriptError Text :=
  let whole := ModuleFile.universalLines (markedFrom 0 content)
  let isMarked := whole.head? = some byteOrderMark
  let text := if isMarked then whole.drop 1 else whole
  let refuse (reason : Text) : Except ScriptError Text := .error (.grammar reason 0)
  if content.contains 0 then .error .nullCharacter
  else
    match (ScriptEncoding.nameOf? text).map ScriptEncoding.usualName with
    | none => .ok text
    | some name =>
        if name = ("utf-8" : Text) then .ok text
        else if isMarked then refuse (("encoding problem: " : Text) ++ name ++ " with BOM")
        else
          match ScriptEncoding.ofName? name with
          | none => refuse (("unknown encoding: " : Text) ++ name)
          | some encoding =>
              match encoding.decode (ScriptToken.bytes text) with
              | .error reason => refuse reason
              | .ok text => .ok text

end Script

end EventForge
