import EventForge.Fault
import EventForge.Module.Literal
import EventForge.Text.Quoted

/-!
# Tokens of scripts

A script is cut into tokens or refused with a fault; strings are literals with escapes.
-/

namespace EventForge

/-!
## Faults of scripts

A script fails before it runs, for a reason with the number of a line, or while it runs, by raising
a fault of some kind.
-/

/-- Why a text is no script. -/
inductive ScriptError
  /-- A text that breaks the grammar. -/
  | grammar (reason : Text) (line : Nat)
  /-- A line that is indented in a way that breaks the grammar. -/
  | indentation (reason : Text) (line : Nat)
  /-- A line that is indented by tabs and blanks so that its depth depends on the width of a tab. -/
  | tabs (line : Nat)
  | nullCharacter
deriving DecidableEq, Repr, Inhabited

namespace ScriptError

/-- A reason with the place that it is about. -/
def placed (reason file : Text) (line : Nat) : Text :=
  reason ++ " (" ++ file ++ ", line " ++ Text.ofNat line ++ ")"

/-- The message of an error; `file` is the last part of the path of the script. -/
def message (file : Text) : ScriptError → Text
  | .grammar reason line | .indentation reason line => placed reason file line
  | .tabs line => placed "inconsistent use of tabs and spaces in indentation" file line
  | .nullCharacter => "source code string cannot contain null bytes"

def kind : ScriptError → FaultKind
  | .grammar _ _ | .nullCharacter => .moduleSyntax
  | .indentation _ _ => .moduleIndentation
  | .tabs _ => .raised "TabError"

end ScriptError

/-!
## Tokens of scripts

A script is cut into words, numbers, strings and symbols.  The ends of lines and the depth of their
indentation are tokens too, except between brackets.  A place that no token can begin at ends the
tokens with a broken one.
-/

/-- What a broken token tells. -/
structure BrokenToken where
  error : ScriptError
  /-- Whether the error is reported even if the grammar is broken in front of it. -/
  isFirst : Bool
deriving DecidableEq, Repr, Inhabited

inductive ScriptTokenKind
  | word (name : Text)
  | number (written : Text)
  /-- A string: the letters in front of it and what stands between its quotes. -/
  | string (marks body : Text)
  | symbol (mark : Text)
  | lineEnd
  | indent
  | dedent
  | finish
  | broken (token : BrokenToken)
deriving DecidableEq, Repr, Inhabited

structure ScriptToken where
  kind : ScriptTokenKind
  line : Nat
  /-- How many brackets are open behind the token. -/
  depth : Nat
deriving DecidableEq, Repr, Inhabited

namespace ScriptToken

/-- What is known between two tokens. -/
structure Place where
  line : Nat
  /-- The depths of the open blocks, the innermost first, each with tabs counted as eight columns
  and as one. -/
  blocks : List (Nat × Nat)
  /-- The open brackets, the innermost first, with their lines. -/
  brackets : List (CodePoint × Nat)

/-- Code points that are no part of a word, in ranges. -/
def symbolRanges : List (Nat × Nat) := [
  (0xA1, 0xA9), (0xAB, 0xB4), (0xB6, 0xB6), (0xB8, 0xB9), (0xBB, 0xBF), (0xD7, 0xD7), (0xF7, 0xF7),
  (0x2C2, 0x2C5), (0x2D2, 0x2DF), (0x2010, 0x203E), (0x2041, 0x2053), (0x2055, 0x206F),
  (0x207A, 0x207E), (0x208A, 0x208E), (0x20A0, 0x20CF), (0x2190, 0x2BFF), (0x2E00, 0x3004),
  (0x3008, 0x3020), (0xFE10, 0xFE1F), (0xFE30, 0xFE32), (0xFF01, 0xFF0F), (0xFF1A, 0xFF20),
  (0xFF3B, 0xFF3E), (0xFF40, 0xFF40), (0xFF5B, 0xFF65), (0x1F000, 0x1FBEF)]

def beginsWord (point : CodePoint) : Bool :=
  point.isAsciiLetter || point = '_' || 0x80 ≤ point.val

def isWordPoint (point : CodePoint) : Bool := beginsWord point || point.isAsciiDigit

/-- The byte that a mark stands for.  A lone surrogate marks a byte that is not encoded as text. -/
def markedByte? (point : CodePoint) : Option UInt8 :=
  if 0xDC80 ≤ point.val && point.val ≤ 0xDCFF then some (UInt8.ofNat (point.val - 0xDC00)) else none

/-- The bytes of a text with marks. -/
def bytes (text : Text) : Bytes :=
  text.flatMap fun point =>
    match markedByte? point with
    | some byte => [byte]
    | none => Utf8.encodePoint point

/-- Why a text with marks is no text. -/
def decodingReason? (text : Text) : Option Text :=
  match Utf8.decode (bytes text) with
  | .error error =>
      if text.any fun point => (markedByte? point).isSome then some error.message else none
  | .ok _ => none

/-- The number of a code point as it is written behind `U+`. -/
def upperHex (number : Nat) : Text :=
  (Text.ofHex 4 number).map fun digit =>
    if digit.isAsciiLower then CodePoint.ofNat (digit.val - 32) else digit

/-- The refusal of a code point. -/
def refusedPoint (point : CodePoint) : Text :=
  if point.isPrintable then
    ("invalid character '" : Text) ++ [point] ++ "' (U+" ++ upperHex point.val ++ ")"
  else ("invalid non-printable character U+" : Text) ++ upperHex point.val

/-- Why a run of word points is no word. -/
def wordReason? (word : Text) : Option Text :=
  match decodingReason? word with
  | some reason => some (("(unicode error) " : Text) ++ reason)
  | none =>
      let refused (point : CodePoint) : Bool :=
        0x80 ≤ point.val && (!point.isPrintable || point.inRanges symbolRanges)
      (List.find? refused word).map refusedPoint

/-- Words that can follow a number at once. -/
def wordsBehindNumbers : List Text := ["and", "else", "for", "if", "in", "is", "or", "not"]

/-- The rest behind a number, which must not go on as a word. -/
def numberEnd (written rest : Text) (kind : Text) : Except Text (Text × Text) :=
  if wordsBehindNumbers.any fun word => rest.startsWith word then .ok (written, rest)
  else if rest.head?.any fun point => point.val < 0x80 && isWordPoint point then
    .error (("invalid " : Text) ++ kind ++ " literal")
  else .ok (written, rest)

/-- Digits with single underscores between them, and the text behind. -/
def digitGroups (isDigit : CodePoint → Bool) : Nat → Text → Option (Text × Text)
  | 0, text => some ([], text)
  | fuel + 1, text =>
      let digits := text.takeWhile isDigit
      let rest := text.drop digits.length
      if digits.isEmpty then none
      else
        match rest with
        | point :: more =>
            if point = '_' then
              (digitGroups isDigit fuel more).map fun found => (digits ++ found.1, found.2)
            else some (digits, rest)
        | [] => some (digits, [])

def decimalGroups (text : Text) : Except Text (Text × Text) :=
  match digitGroups CodePoint.isAsciiDigit (text.length + 1) text with
  | some found => .ok found
  | none => .error "invalid decimal literal"

/-- The rest of a number behind its mantissa. -/
def numberTail (mantissa rest : Text) : Except Text (Text × Text) :=
  match rest with
  | point :: more =>
      if point.toAsciiLower = ('j' : CodePoint) then
        numberEnd (mantissa ++ "j") more "imaginary"
      else numberEnd mantissa rest "decimal"
  | [] => .ok (mantissa, [])

/-- The rest of a number behind its whole part and its fraction. -/
def exponentTail (mantissa rest : Text) : Except Text (Text × Text) :=
  match rest with
  | point :: more =>
      if point.toAsciiLower ≠ ('e' : CodePoint) then numberTail mantissa rest
      else
        let sign := more.takeWhile fun (next : CodePoint) => next = '+' || next = '-'
        let digits := more.drop (sign.take 1).length
        if digits.head?.any CodePoint.isAsciiDigit then do
          let (found, rest) ← decimalGroups digits
          numberTail (mantissa ++ ("e" : Text) ++ sign.take 1 ++ found) rest
        else if sign.isEmpty then numberEnd mantissa rest "decimal"
        else .error "invalid decimal literal"
  | [] => .ok (mantissa, [])

/-- The rest of a number behind its whole part. -/
def fractionTail (whole rest : Text) : Except Text (Text × Text) :=
  match rest with
  | point :: more =>
      if point ≠ '.' then exponentTail whole rest
      else if more.head?.any CodePoint.isAsciiDigit then do
        let (digits, rest) ← decimalGroups more
        exponentTail (whole ++ "." ++ digits) rest
      else exponentTail (whole ++ ".") more
  | [] => .ok (whole, [])

/-- A number in a base other than ten, behind its mark. -/
def basedNumber (lead : Text) (base : Nat) (kind text : Text) : Except Text (Text × Text) :=
  let isDigit (point : CodePoint) : Bool := point.hexValue?.any fun digit => digit < base
  let digits := (text.takeWhile fun point => isDigit point || point = '_')
  let behind := text.drop digits.length
  match behind.head?.filter fun point => point.isAsciiDigit with
  | some point =>
      .error (("invalid digit '" : Text) ++ [point] ++ "' in " ++ kind ++ " literal")
  | none =>
      let start := if text.head? = some '_' then text.drop 1 else text
      match digitGroups isDigit (text.length + 1) start with
      | some (found, rest) => numberEnd (lead ++ found) rest kind
      | none => .error (("invalid " : Text) ++ kind ++ " literal")

/-- A decimal number and the text behind it. -/
def decimalNumber (text : Text) : Except Text (Text × Text) := do
  if text.head? = some '.' then fractionTail [] text
  else
    let (whole, rest) ← decimalGroups text
    let leadsZero := text.head? = some '0' && whole.any fun digit => digit ≠ '0'
    let isReal := rest.head?.any fun (point : CodePoint) =>
      point = '.' || point.toAsciiLower = ('e' : CodePoint) ||
        point.toAsciiLower = ('j' : CodePoint)
    if leadsZero && !isReal then
      throw (("leading zeros in decimal integer literals are not permitted; " : Text) ++
        "use an 0o prefix for octal integers")
    fractionTail whole rest

/-- The number that a text begins with and the text behind it. -/
def number : Text → Except Text (Text × Text)
  | zero :: mark :: rest =>
      let mark := mark.toAsciiLower
      if zero ≠ '0' then decimalNumber (zero :: mark :: rest)
      else if mark = ('x' : CodePoint) then basedNumber "0x" 16 "hexadecimal" rest
      else if mark = ('o' : CodePoint) then basedNumber "0o" 8 "octal" rest
      else if mark = ('b' : CodePoint) then basedNumber "0b" 2 "binary" rest
      else decimalNumber (zero :: mark :: rest)
  | text => decimalNumber text

/-- What stands between the quotes of a string, and the text behind it.  A long string has three
quotes on each side and can hold line ends. -/
def stringBody? (quote : CodePoint) (long : Bool) : Text → Option (Text × Text)
  | [] => none
  | point :: rest =>
      if point = '\\' then
        match rest with
        | [] => none
        | escaped :: more =>
            (stringBody? quote long more).map fun found => (point :: escaped :: found.1, found.2)
      else if point = quote && !long then some ([], rest)
      else if point = quote && Text.startsWith rest [quote, quote] then some ([], rest.drop 2)
      else if point.val = 0x0A && !long then none
      else (stringBody? quote long rest).map fun found => (point :: found.1, found.2)

/-- How many line ends stand in front of the last line that a string without an end reaches.  The
last line of a script ends the text. -/
def openLines (long : Bool) : Text → Nat
  | [] => 0
  | point :: rest =>
      let line := if rest.isEmpty then 0 else 1
      if point = '\\' then
        match rest with
        | [] => 0
        | escaped :: more =>
            (if escaped.val = 0x0A && !more.isEmpty then 1 else 0) + openLines long more
      else if point.val = 0x0A then (if long then line + openLines long rest else 0)
      else openLines long rest

/-- Symbols of more than one sign, the longest first. -/
def longSymbols : List Text := List.map Text.ofString [
  "**=", "...", "//=", "<<=", ">>=", "!=", "%=", "&=", "**", "*=", "+=", "-=", "->", "//", "/=",
  ":=", "<<", "<=", "<>", "==", ">=", ">>", "@=", "^=", "|="]

/-- The symbol that a text begins with. -/
def symbolAt (point : CodePoint) (rest : Text) : Text :=
  (longSymbols.find? fun symbol => Text.startsWith (point :: rest) symbol).getD [point]

/-- Letters in front of a string, in any case. -/
def stringMarks : List Text := List.map Text.ofString ["r", "u", "b", "br", "rb", "f", "fr", "rf"]

def closerOf? (point : CodePoint) : Option CodePoint :=
  if point = '(' then some ')' else if point = '[' then some ']'
  else if point = '{' then some '}' else none

def isCloser (point : CodePoint) : Bool := point = ')' || point = ']' || point = '}'

/-- The most brackets that can be open. -/
def maxBrackets : Nat := 200

/-- The most blocks that can be open. -/
def maxBlocks : Nat := 100

/-- The open brackets behind a symbol. -/
def bracketsBehind (place : Place) (point : CodePoint) :
    Except Text (List (CodePoint × Nat)) :=
  if (closerOf? point).isSome then
    if place.brackets.length < maxBrackets then .ok ((point, place.line) :: place.brackets)
    else .error "too many nested parentheses"
  else if isCloser point then
    match place.brackets with
    | [] => .error (("unmatched '" : Text) ++ [point] ++ "'")
    | (opener, line) :: others =>
        if closerOf? opener = some point then .ok others
        else .error (("closing parenthesis '" : Text) ++ [point] ++
          "' does not match opening parenthesis '" ++ [opener] ++ "'" ++
          (if line = place.line then [] else (" on line " : Text) ++ Text.ofNat line))
  else .ok place.brackets

/-- The columns that a line is indented by, with tabs as eight columns and as one, and the rest of
the line. -/
def indentation (column narrow : Nat) : Text → (Nat × Nat) × Text
  | [] => ((column, narrow), [])
  | point :: rest =>
      if point = ' ' then indentation (column + 1) (narrow + 1) rest
      else if point.val = 0x09 then indentation ((column / 8 + 1) * 8) (narrow + 1) rest
      else if point.val = 0x0C then indentation 0 0 rest
      else ((column, narrow), point :: rest)

/-- The tokens for a change of indentation, and the blocks that are then open. -/
def blockTokens (place : Place) (depth : Nat × Nat) :
    Except ScriptError (List ScriptTokenKind × List (Nat × Nat)) :=
  match place.blocks with
  | [] => .ok ([], [depth])
  | top :: _ =>
      if depth.1 = top.1 then
        if depth.2 = top.2 then .ok ([], place.blocks) else .error (.tabs place.line)
      else if top.1 < depth.1 then
        if depth.2 ≤ top.2 then .error (.tabs place.line)
        else if maxBlocks ≤ place.blocks.length then
          .error (.indentation "too many levels of indentation" place.line)
        else .ok ([.indent], depth :: place.blocks)
      else
        let kept := place.blocks.dropWhile fun block => depth.1 < block.1
        let closed := place.blocks.length - kept.length
        match kept with
        | block :: _ =>
            if block.1 ≠ depth.1 then
              .error (.indentation "unindent does not match any outer indentation level" place.line)
            else if block.2 ≠ depth.2 then .error (.tabs place.line)
            else .ok (List.replicate closed .dedent, kept)
        | [] => .ok ([], [depth])

/-- The error for a bracket that is still open. -/
def openBracketError? (place : Place) : Option ScriptError :=
  place.brackets.head?.map fun bracket =>
    .grammar (("'" : Text) ++ [bracket.1] ++ ("' was never closed" : Text)) bracket.2

/-- The token at a place. -/
def mark (place : Place) (kind : ScriptTokenKind) : ScriptToken :=
  { kind, line := place.line, depth := place.brackets.length }

/-- A broken token at a place. -/
def broken (place : Place) (error : ScriptError) (isFirst : Bool) : ScriptToken :=
  mark place (.broken { error, isFirst })

/-- The end of a script where no line is open.  It belongs to the last line. -/
def closing (place : Place) : List ScriptToken :=
  let place := { place with line := place.line - 1 }
  match openBracketError? place with
  | some error => [broken place error false]
  | none => List.replicate (place.blocks.length - 1) (mark place .dedent) ++ [mark place .finish]

/-- What a text goes on with: a token, with the place and the text behind it, or a broken one. -/
abbrev Cut := Except ScriptToken (ScriptToken × Place × Text)

/-- The string that a text begins with, behind the letters in front of it. -/
def cutString (place : Place) (marks : Text) (quote : CodePoint) (rest : Text) : Cut :=
  let long := Text.startsWith rest [quote, quote]
  let inner := if long then rest.drop 2 else rest
  match stringBody? quote long inner with
  | some (body, rest) =>
      let lines := body.countP fun point => point.val = 0x0A
      .ok (mark place (.string marks body), { place with line := place.line + lines }, rest)
  | none =>
      let kind : Text := if long then "triple-quoted string" else "string"
      let last := Text.ofNat (place.line + openLines long inner)
      .error (broken place (.grammar (("unterminated " : Text) ++ kind ++
        " literal (detected at line " ++ last ++ ")") place.line) true)

/-- The word, or the string with letters in front of it, that a text begins with. -/
def cutWord (place : Place) (text : Text) : Cut :=
  let word : Text := text.takeWhile isWordPoint
  match text.drop word.length with
  | [] => .ok (mark place (.word word), place, [])
  | next :: rest =>
      if (next = '"' || next = '\'') && stringMarks.contains word.toAsciiLower then
        cutString place word.toAsciiLower next rest
      else
        match wordReason? word with
        | some reason => .error (broken place (.grammar reason place.line) true)
        | none => .ok (mark place (.word word), place, next :: rest)

/-- The token that a text with this first code point begins with. -/
def cut (place : Place) (point : CodePoint) (rest : Text) : Cut :=
  let fail (reason : Text) : Cut := .error (broken place (.grammar reason place.line) true)
  if beginsWord point then cutWord place (point :: rest)
  else if point = '"' || point = '\'' then cutString place [] point rest
  else if point.isAsciiDigit || (point = '.' && rest.head?.any CodePoint.isAsciiDigit) then
    match number (point :: rest) with
    | .error reason => fail reason
    | .ok (written, rest) => .ok (mark place (.number written), place, rest)
  else
    let symbol := symbolAt point rest
    match bracketsBehind place point with
    | .error reason => fail reason
    | .ok brackets =>
        if point.isPrintable then
          let place := { place with brackets }
          .ok (mark place (.symbol symbol), place, rest.drop (symbol.length - 1))
        else fail (refusedPoint point)

/-- The place and the text behind a backslash. -/
def joined (place : Place) : Text → Except ScriptToken (Place × Text)
  | [] => .ok (place, [])
  | next :: more =>
      if next.val ≠ 0x0A then
        .error (broken place
          (.grammar "unexpected character after line continuation character" place.line) false)
      else if more.isEmpty then
        .error (broken place ((openBracketError? place).getD
          (.grammar "unexpected EOF while parsing" place.line)) false)
      else .ok ({ place with line := place.line + 1 }, more)

/-- Where a text goes on. -/
inductive LinePlace
  | inside
  /-- At the beginning of a line, behind some columns.  A backslash that ended such a beginning
  holds the columns in front of it, if there were any. -/
  | opening (columns : Nat × Nat) (held : Nat)

/-- The beginning of a line. -/
def LinePlace.first : LinePlace := .opening (0, 0) 0

/-- The tokens of a text.  Every step takes a code point or ends the tokens, so that the length of
the text bounds their number. -/
def scan : Nat → Place → LinePlace → Text → List ScriptToken
  | 0, place, _, _ => closing place
  | fuel + 1, place, .opening columns held, text =>
      let (found, rest) := indentation columns.1 columns.2 text
      let depth := if 0 < held then (held, held) else found
      if rest.isEmpty then closing place
      else if rest.head? = some '\\' then
        match joined place (rest.drop 1) with
        | .error token => [token]
        | .ok (place, rest) => scan fuel place (.opening found depth.1) rest
      else if !place.brackets.isEmpty then scan fuel place .inside rest
      else if rest.head?.any fun (point : CodePoint) => point = '#' || point.val = 0x0A then
        let behind := rest.dropWhile fun point => point.val ≠ 0x0A
        scan fuel { place with line := place.line + 1 } .first (behind.drop 1)
      else
        match blockTokens place depth with
        | .error error => [broken place error false]
        | .ok (kinds, blocks) =>
            let place := { place with blocks }
            kinds.map (mark place) ++ scan fuel place .inside rest
  | _ + 1, place, .inside, [] => closing place
  | fuel + 1, place, .inside, point :: rest =>
      if point = ' ' || point.val = 0x09 || point.val = 0x0C then scan fuel place .inside rest
      else if point = '#' then
        scan fuel place .inside (rest.dropWhile fun next => next.val ≠ 0x0A)
      else if point.val = 0x0A then
        let others := scan fuel { place with line := place.line + 1 } .first rest
        if place.brackets.isEmpty then mark place .lineEnd :: others else others
      else if point = '\\' then
        match joined place rest with
        | .error token => [token]
        | .ok (place, rest) => scan fuel place .inside rest
      else
        match cut place point rest with
        | .error token => [token]
        | .ok (token, place, rest) => token :: scan fuel place .inside rest

/-- The tokens of a script, whose last line has an end. -/
def ofText (text : Text) : List ScriptToken :=
  let isEnded := text.getLast?.any fun point => point.val = 0x0A
  let ended := if isEnded then text else text ++ ("\n" : Text)
  scan (2 * ended.length + 2) { line := 1, blocks := [(0, 0)], brackets := [] } .first ended

/-- The error of the first broken token. -/
def brokenError? (tokens : List ScriptToken) : Option ScriptError :=
  tokens.findSome? fun token =>
    match token.kind with
    | .broken found => some found.error
    | _ => none

end ScriptToken

/-!
## Strings of scripts

What stands between the quotes of a string is read with its escapes, unless a letter in front of it
says that it is raw.  Strings of bytes hold ASCII only.
-/

namespace ScriptString

/-- Why a string has no value. -/
inductive Fault
  /-- An escape at a position that means nothing. -/
  | escape (position : Nat) (fault : Literal.EscapeFault)
  | byteEscape (position : Nat)
  /-- A text that is not encoded as text. -/
  | encoding (reason : Text)
  | foreignBytes
deriving DecidableEq, Repr

/-- The places from a position to the end of an escape. -/
def span (position size : Nat) : Text :=
  (" position " : Text) ++ Text.ofNat position ++ "-" ++ Text.ofNat (position + size - 1)

def escapeReason (position : Nat) : Literal.EscapeFault → Text
  | .truncated letter size =>
      let digits : Text :=
        if letter = 'x' then "XX" else if letter = 'u' then "XXXX" else "XXXXXXXX"
      ("bytes in" : Text) ++ span position size ++ ": truncated \\" ++ [letter] ++ digits ++
        " escape"
  | .beyond size => ("bytes in" : Text) ++ span position size ++ ": illegal Unicode character"
  | .named isOpen size =>
      ("bytes in" : Text) ++ span position size ++
        (if isOpen then (": malformed \\N character escape" : Text)
          else ": unknown Unicode character name")
  | .empty => ("byte 0x5c in position " : Text) ++ Text.ofNat position ++ ": \\ at end of string"

def Fault.message : Fault → Text
  | .escape position fault =>
      ("(unicode error) 'unicodeescape' codec can't decode " : Text) ++ escapeReason position fault
  | .byteEscape position =>
      ("(value error) invalid \\x escape at position " : Text) ++ Text.ofNat position
  | .encoding reason => ("(unicode error) " : Text) ++ reason
  | .foreignBytes => "bytes can only contain ASCII literal characters"

/-- How many places a code point takes where escapes are counted. -/
def width (point : CodePoint) : Nat := if point.val < 0x80 then 1 else 10

/-- The fault of a name for a code point, behind its backslash. -/
def nameFault (rest : Text) : Literal.EscapeFault :=
  match rest with
  | brace :: more =>
      let name := more.takeWhile fun (point : CodePoint) => point ≠ '}'
      if brace ≠ '{' then .named true 2
      else if name.length = more.length || name.isEmpty then .named true (3 + name.length)
      else .named false (4 + name.length)
  | [] => .named true 2

/-- The value of a text with escapes from a position on. -/
def unescape : Nat → Nat → Text → Except Fault Text
  | 0, _, text => .ok text
  | _ + 1, _, [] => .ok []
  | fuel + 1, position, point :: rest =>
      if point ≠ '\\' then
        (unescape fuel (position + width point) rest).map fun others => point :: others
      else if rest.head? = some (CodePoint.ofChar 'N') then
        .error (.escape position (nameFault (rest.drop 1)))
      else
        match Literal.escape rest with
        | .error fault => .error (.escape position fault)
        | .ok (meant, more) => do
            let taken := rest.take (rest.length - more.length)
            let size := taken.foldl (fun sum point => sum + width point) 1
            return meant ++ (← unescape fuel (position + size) more)

/-- The value of bytes with escapes from a position on. -/
def unescapeBytes : Nat → Nat → Text → Except Fault Text
  | 0, _, text => .ok text
  | _ + 1, _, [] => .ok []
  | fuel + 1, position, point :: rest =>
      if point ≠ '\\' then
        (unescapeBytes fuel (position + 1) rest).map fun others => point :: others
      else if rest.head?.any fun (next : CodePoint) => next = 'u' || next = 'U' then do
        return point :: (← unescapeBytes fuel (position + 1) rest)
      else
        match Literal.escape rest with
        | .error _ => .error (.byteEscape position)
        | .ok (meant, more) => do
            let size := 1 + (rest.length - more.length)
            return (meant.map fun value => CodePoint.ofNat (value.val % 256)) ++
              (← unescapeBytes fuel (position + size) more)

/-- The value of a string that holds no values, with the letters in front of it. -/
def value (marks body : Text) : Except Fault Document :=
  let isRaw := marks.contains (CodePoint.ofChar 'r')
  if marks.contains (CodePoint.ofChar 'b') then do
    if body.any fun point => 0x80 ≤ point.val then throw .foreignBytes
    let content ← if isRaw then pure body else unescapeBytes (body.length + 1) 0 body
    return .bytes (content.map fun point => UInt8.ofNat point.val)
  else do
    if let some reason := ScriptToken.decodingReason? body then throw (.encoding reason)
    return .text (← if isRaw then pure body else unescape (body.length + 1) 0 body)

end ScriptString

end EventForge
