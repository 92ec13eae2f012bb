import EventForge.Sql.Cell
import EventForge.Sql.Decimal

/-!
# Formats of the database

A format is text in which directives stand for values: each names a conversion, and perhaps flags, a
width and a precision in front of it.  A directive that does not exist ends the text.
-/

namespace EventForge

/-- A width or a precision of a directive. -/
inductive FormatExtent
  | none
  | fixed (size : Nat)
  /-- The next value gives it. -/
  | given
deriving DecidableEq, Repr

structure FormatDirective where
  left : Bool := false
  plus : Text := []
  alternate : Bool := false
  /-- Whether widths count code points, and numbers have more digits. -/
  wide : Bool := false
  zeros : Bool := false
  grouped : Bool := false
  width : FormatExtent := .none
  precision : FormatExtent := .none
  conversion : CodePoint
deriving Repr

inductive FormatPiece
  | text (text : Text)
  | directive (directive : FormatDirective)
  /-- Nothing follows. -/
  | stop
deriving Repr

namespace FormatDirective

/-- The directive with a flag. -/
def flagged? (directive : FormatDirective) (flag : CodePoint) : Option FormatDirective :=
  if flag = '-' then some { directive with left := true }
  else if flag = '+' then some { directive with plus := "+" }
  else if flag = ' ' then some { directive with plus := " " }
  else if flag = '#' then some { directive with alternate := true }
  else if flag = '!' then some { directive with wide := true }
  else if flag = '0' then some { directive with zeros := true }
  else if flag = ',' then some { directive with grouped := true }
  else none

/-- A directive with the flags that a text starts with, and the text behind them. -/
def takeFlags (directive : FormatDirective) : Text → FormatDirective × Text
  | [] => (directive, [])
  | flag :: rest =>
      match directive.flagged? flag with
      | some directive => takeFlags directive rest
      | none => (directive, flag :: rest)

/-- The extent that a text starts with, and the text behind it. -/
def takeExtent (text : Text) : FormatExtent × Text :=
  match text with
  | [] => (.none, [])
  | first :: rest =>
      if first = '*' then (.given, rest)
      else
        let digits := text.takeWhile CodePoint.isAsciiDigit
        if digits.isEmpty then (.none, text)
        else (.fixed (Text.digitsValue digits % twoTo 31), text.drop digits.length)

/-- The precision behind its point, if there is one, and the text behind it. -/
def takePrecision : Text → FormatExtent × Text
  | [] => (.none, [])
  | point :: rest =>
      if point ≠ '.' then (.none, point :: rest)
      else
        match takeExtent rest with
        | (.none, rest) => (.fixed 0, rest)
        | found => found

/-- The text behind one or two letters for long numbers, which change nothing. -/
def dropLong : Text → Text
  | [] => []
  | letter :: rest =>
      if letter ≠ 'l' then letter :: rest
      else
        match rest with
        | next :: others => if next = 'l' then others else rest
        | [] => []

/-- The directive behind its mark, and the text behind it. -/
def read (text : Text) : Option (FormatDirective × Text) :=
  let (directive, rest) := takeFlags { conversion := 0 } text
  let (width, rest) := takeExtent rest
  let (precision, rest) := takePrecision rest
  match dropLong rest with
  | conversion :: rest => some ({ directive with width, precision, conversion }, rest)
  | [] => none

end FormatDirective

/-- The pieces of a format. -/
def FormatPiece.read (format : Text) : List FormatPiece :=
  let rec pieces : Nat → Text → List FormatPiece
    | 0, _ => []
    | _ + 1, [] => []
    | fuel + 1, point :: rest =>
        if point = '%' then
          if rest.isEmpty then [.text [point]]
          else
            match FormatDirective.read rest with
            | some (found, rest) => .directive found :: pieces fuel rest
            | none => [.stop]
        else
          let text := (point :: rest).takeWhile fun point => point ≠ CodePoint.ofChar '%'
          .text text :: pieces fuel ((point :: rest).drop text.length)
  pieces (format.length + 1) format

namespace FormatDirective

/-- A text as far as a NUL. -/
def beforeNul (text : Text) : Text := text.takeWhile fun point => point.val ≠ 0

/-- An integer in thirty-two bits. -/
def narrow (number : Int) : Int := Int.bmod number (twoTo 32)

/-- The bytes of a text. -/
def byteCount (text : Text) : Nat := (Cell.bytesOfText text).length

/-- The first bytes of a text, which may end within a code point. -/
def leadOfBytes (size : Nat) (text : Text) : Text :=
  Cell.textOfBlob ((Cell.bytesOfText text).take size)

/-- A lead of a text, measured as the directive says. -/
def lead (directive : FormatDirective) (precision : Option Nat) (text : Text) : Text :=
  match precision with
  | none => text
  | some size => if directive.wide then text.take size else leadOfBytes size text

/-- A text with blanks up to a width. -/
def padded (directive : FormatDirective) (width : Nat) (text : Text) : Text :=
  let size := if directive.wide then text.length else byteCount text
  let blanks : Text := List.replicate (width - size) (CodePoint.ofChar ' ')
  if directive.left then text ++ blanks else blanks ++ text

/-- Digits of a number in a base; letters follow the digits. -/
def baseDigits (base : Nat) (capital : Bool) (number : Nat) : Text :=
  let digits := (Nat.toDigits base number).map CodePoint.ofChar
  if capital then
    digits.map fun digit => if digit.isAsciiLower then CodePoint.ofNat (digit.val - 32) else digit
  else digits

/-- The letters behind the digits of a position. -/
def ordinal (number : Nat) : Text :=
  if number / 10 % 10 = 1 then "th"
  else
    match number % 10 with
    | 1 => "st"
    | 2 => "nd"
    | 3 => "rd"
    | _ => "th"

/-- An integer, laid out. -/
def integerText (directive : FormatDirective) (width : Nat) (precision : Option Nat)
    (number : Int) : Text :=
  let conversion := directive.conversion
  let signed := conversion = 'd' || conversion = 'i' || conversion = 'r'
  let decimal := signed || conversion = 'u'
  let size : Nat := if signed then number.natAbs else (number % (twoTo 64 : Int)).toNat
  let sign : Text :=
    if !signed then [] else if number < 0 then "-" else directive.plus
  let least := precision.getD 0
  let least :=
    if directive.zeros && least < width - sign.length then width - sign.length else least
  let base := if decimal then 10 else if conversion = 'o' then 8 else 16
  let digits := baseDigits base (conversion = 'X' || conversion = 'p') size
  let digits := if conversion = 'r' then digits ++ ordinal size else digits
  let digits := List.replicate (least - digits.length) Decimal.zero ++ digits
  let digits :=
    if directive.grouped && decimal && conversion ≠ 'r' then DecimalLayout.commas digits else digits
  let lead : Text :=
    if !directive.alternate || size = 0 || decimal then []
    else if conversion = 'o' then "0"
    else if conversion = 'X' then "0X"
    else "0x"
  lead ++ sign ++ digits

/-- A real number, laid out. -/
def realText (directive : FormatDirective) (width : Nat) (precision : Option Nat)
    (number : Float) : Text :=
  let conversion := directive.conversion
  let form : DecimalForm :=
    if conversion = 'f' then .fixed
    else if conversion = 'e' || conversion = 'E' then .scientific
    else .general
  let layout : DecimalLayout :=
    { form, precision := precision.getD 6, plus := directive.plus
      letter := CodePoint.ofChar (if conversion = 'E' || conversion = 'G' then 'E' else 'e')
      alternate := directive.alternate, wide := directive.wide, grouped := directive.grouped }
  let shown := layout.apply number
  let size := shown.sign.length + shown.body.length
  let zeros :=
    if directive.zeros && !directive.left && shown.finite then
      List.replicate (width - size) Decimal.zero
    else []
  shown.sign ++ zeros ++ shown.body

/-- A text with the quotes in it doubled, in quotes if it is there at all. -/
def escapedText (directive : FormatDirective) (precision : Option Nat) (text : Option Text) : Text :=
  let conversion := directive.conversion
  let quote := CodePoint.ofChar (if conversion = 'w' then '"' else '\'')
  let shown : Text := text.getD (if conversion = 'Q' then "NULL" else "(NULL)")
  let doubled : Text := (directive.lead precision shown).flatMap fun point : CodePoint =>
    if point = quote then [point, point] else [point]
  if conversion = 'Q' && text.isSome then [quote] ++ doubled ++ [quote] else doubled

/-- The first code point of a text, repeated; a NUL if there is none. -/
def pointText (directive : FormatDirective) (width : Nat) (precision : Option Nat)
    (text : Text) : Text :=
  let point := text.headD 0
  let others := precision.getD 1 - 1
  let first : FormatDirective := { directive with wide := true }
  if others = 0 then first.padded width [point]
  else if directive.left then
    List.replicate others point ++ first.padded (width - others) [point]
  else
    List.replicate (width - others - 1) (CodePoint.ofChar ' ') ++ List.replicate (others + 1) point

/-- The text of a directive for a value; `none` if it does not exist. -/
def text? (directive : FormatDirective) (width : Nat) (precision : Option Nat) (cell : Cell) :
    Option Text :=
  let conversion := directive.conversion
  let isAny (letters : String) : Bool := letters.toList.any fun letter => conversion = letter
  let text := cell.toText?.map beforeNul
  if isAny "dioruxXp" then
    some (directive.padded width
      (directive.integerText width precision (cell.toInteger?.getD 0)))
  else if isAny "feEgG" then
    some (directive.padded width
      (directive.realText width precision (cell.toReal?.getD 0)))
  else if isAny "sz" then
    some (directive.padded width (directive.lead precision (text.getD [])))
  else if isAny "qQw" then
    some (directive.padded width (directive.escapedText precision text))
  else if isAny "c" then some (directive.pointText width precision (text.getD []))
  else if isAny "%" then some (directive.padded width [conversion])
  else if isAny "n" then some []
  else none

/-- Whether the directive stands for a value. -/
def takesValue (directive : FormatDirective) : Bool :=
  directive.conversion ≠ '%' && directive.conversion ≠ 'n'

/-- Whether the text of the directive is at least as long as its precision. -/
def fillsPrecision (directive : FormatDirective) : Bool :=
  "dioruxXpfeEc".toList.any fun letter => directive.conversion = letter

end FormatDirective

namespace Format

/-- The values behind the next one. -/
def next (cells : List Cell) : Cell × List Cell := (cells.headD .null, cells.drop 1)

/-- An extent, which may be negative, and the values that are left. -/
def extent (written : FormatExtent) (cells : List Cell) : Option Int × List Cell :=
  match written with
  | .none => (none, cells)
  | .fixed size => (some size, cells)
  | .given =>
      (some (FormatDirective.narrow ((next cells).1.toInteger?.getD 0)), (next cells).2)

/-- How long a text can be. -/
def limit : Nat := 1000000000

/-- The texts of pieces, as far as they exist; `none` if one is too long. -/
def texts : List FormatPiece → List Cell → Option (List Text)
  | [], _ | .stop :: _, _ => some []
  | .text text :: pieces, cells => (texts pieces cells).map (text :: ·)
  | .directive directive :: pieces, cells =>
      let (width, cells) := extent directive.width cells
      let (precision, cells) := extent directive.precision cells
      let width := width.getD 0
      let isLeft := directive.left || width < 0
      let size := if width = -(twoTo 31) then 0 else width.natAbs
      let precision : Option Nat := precision.bind fun size =>
        if size = -(twoTo 31) then none else some size.natAbs
      let (cell, cells) := if directive.takesValue then next cells else (.null, cells)
      if (limit < size && directive.conversion ≠ 'n') || (limit < precision.getD 0 && directive.fillsPrecision) then none
      else
        match { directive with left := isLeft }.text? size precision cell with
        | some text => (texts pieces cells).map (text :: ·)
        | none => some []

/-- The text of a format with values in it; missing if it has no piece or is too long. -/
def apply (format : Text) (cells : List Cell) : Cell :=
  match texts (FormatPiece.read (FormatDirective.beforeNul format)) cells with
  | none | some [] => .null
  | some found => .text found.flatten

end Format

end EventForge
