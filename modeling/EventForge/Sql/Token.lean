import EventForge.Text.Utf8

/-!
# Tokens of statements

A statement is a sequence of words, numbers, variables, quoted names, strings, blobs and symbols.
Blanks and comments separate tokens: a comment goes from two minus signs to the end of a line, or
between `/*` and `*/`.  A token keeps what stands in front of it, so that the text of a part of a
statement can be given back.
-/

namespace EventForge

/-- What a token is. -/
inductive SqlTokenKind
  | word
  | number
  | variable
  | quotedName (content : Text)
  | string (content : Text)
  | blob (bytes : Bytes)
  | symbol
  /-- What no token begins with, or what breaks off. -/
  | illegal
deriving DecidableEq, Repr

structure SqlToken where
  kind : SqlTokenKind
  /-- The blanks and comments in front of the token. -/
  before : Text
  written : Text
deriving DecidableEq, Repr

namespace SqlToken

/-- Blanks that can open a separation. -/
def isBlank (point : CodePoint) : Bool :=
  point.val = 0x20 || point.val = 0x09 || point.val = 0x0A || point.val = 0x0C ||
    point.val = 0x0D || point.val = 0xFEFF

/-- Blanks behind others. -/
def isLaterBlank (point : CodePoint) : Bool :=
  point.val = 0x20 || (0x09 ≤ point.val && point.val ≤ 0x0D)

/-- Code points of words. -/
def isWordPoint (point : CodePoint) : Bool :=
  point.isAsciiAlphanumeric || point = '_' || point = '$' || 0x80 ≤ point.val

/-- How many code points a block comment has behind its opening. -/
def blockLength : Text → Nat
  | [] => 0
  | [_] => 1
  | first :: second :: rest =>
      if first = '*' && second = '/' then 2 else blockLength (second :: rest) + 1

/-- How many code points a comment at the front of a text has. -/
def commentLength : Text → Nat
  | first :: second :: rest =>
      if first = '-' && second = '-' then
        2 + (rest.takeWhile fun point => point ≠ CodePoint.lineFeed).length
      else if first = '/' && second = '*' && !rest.isEmpty then 2 + blockLength rest
      else 0
  | _ => 0

/-- How many code points in front of the first token separate it from what precedes; none, one
separation or several. -/
def separation : Nat → Text → Nat
  | 0, _ => 0
  | _ + 1, [] => 0
  | fuel + 1, point :: rest =>
      let length :=
        if point.val = 0xFEFF then 1
        else if isBlank point then 1 + (rest.takeWhile isLaterBlank).length
        else commentLength (point :: rest)
      if length = 0 then 0 else length + separation fuel ((point :: rest).drop length)

/-- The content of a quotation behind its opening mark, and its length with the closing mark;
`none` if it is not closed.  The closing mark stands for itself where it is doubled. -/
def quotation? (mark : CodePoint) (doubles : Bool) : Text → Option (Text × Nat)
  | [] => none
  | point :: rest =>
      if point ≠ mark then
        (quotation? mark doubles rest).map fun found => (point :: found.1, found.2 + 1)
      else
        match rest with
        | [] => some ([], 1)
        | next :: more =>
            if doubles && next = mark then
              (quotation? mark doubles more).map fun found => (point :: found.1, found.2 + 2)
            else some ([], 1)

/-- The bytes that pairs of hexadecimal digits name. -/
def hexBytes? : Text → Option Bytes
  | [] => some []
  | [_] => none
  | high :: low :: rest => do
      let high ← high.hexValue?
      let low ← low.hexValue?
      let bytes ← hexBytes? rest
      some ((high * 16 + low).toUInt8 :: bytes)

/-- A quotation at the front of a text, behind its opening mark. -/
def quoted (mark : CodePoint) (rest : Text) : SqlTokenKind × Nat :=
  match quotation? mark (mark ≠ CodePoint.ofChar ']') rest with
  | none => (.illegal, rest.length + 1)
  | some (content, length) =>
      (if mark = '\'' then .string content else .quotedName content, length + 1)

/-- A blob behind its letter and its opening mark. -/
def blobAt (rest : Text) : SqlTokenKind × Nat :=
  let digits := rest.takeWhile fun point => point ≠ CodePoint.ofChar '\''
  match hexBytes? digits with
  | some bytes =>
      if digits.length < rest.length then (.blob bytes, digits.length + 3)
      else (.illegal, digits.length + 2)
  | none => (.illegal, min (digits.length + 3) (rest.length + 2))

/-- The length of an exponent at the front of a text, zero if there is none. -/
def exponentLength : Text → Nat
  | letter :: rest =>
      if letter = 'e' || letter = 'E' then
        let signs :=
          if rest.head?.any fun sign : CodePoint => sign = '-' || sign = '+' then 1 else 0
        let digits := ((rest.drop signs).takeWhile CodePoint.isAsciiDigit).length
        if digits = 0 then 0 else 1 + signs + digits
      else 0
  | [] => 0

/-- Whether a text starts with a number in base sixteen. -/
def isHexNumber : Text → Bool
  | zero :: mark :: digit :: _ =>
      zero = '0' && (mark = 'x' || mark = 'X') && digit.hexValue?.isSome
  | _ => false

/-- A number at the front of a text.  A word point must not follow. -/
def numberAt (text : Text) : SqlTokenKind × Nat :=
  if isHexNumber text then
    (.number, 2 + ((text.drop 2).takeWhile fun point => point.hexValue?.isSome).length)
  else
    let whole := (text.takeWhile CodePoint.isAsciiDigit).length
    let rest := text.drop whole
    let fraction :=
      match rest with
      | point :: more =>
          if point = '.' then 1 + (more.takeWhile CodePoint.isAsciiDigit).length else 0
      | [] => 0
    let length := whole + fraction + exponentLength (rest.drop fraction)
    let excess := ((text.drop length).takeWhile isWordPoint).length
    (if excess = 0 then .number else .illegal, length + excess)

/-- How many code points of a variable follow its mark, and whether they are well formed: word
points, pairs of colons, and at the end perhaps something in parentheses. -/
def variableLength (hasName : Bool) : Text → Nat × Bool
  | [] => (0, hasName)
  | [point] => if isWordPoint point then (1, true) else (0, hasName)
  | point :: next :: rest =>
      if isWordPoint point then
        let found := variableLength true (next :: rest)
        (found.1 + 1, found.2)
      else if point = ':' && next = ':' then
        let found := variableLength hasName rest
        (found.1 + 2, found.2)
      else if point = '(' && hasName then
        let inner := (next :: rest).takeWhile fun point =>
          point ≠ CodePoint.ofChar ')' && !isLaterBlank point
        let closed := ((next :: rest).drop inner.length).head? == some (CodePoint.ofChar ')')
        (inner.length + (if closed then 2 else 1), closed)
      else (0, hasName)

/-- Symbols of several code points, longer ones first. -/
def longSymbols : List Text :=
  ["->>", "->", "==", "<=", "<>", "<<", ">=", ">>", "!=", "||"]

/-- Symbols of one code point. -/
def shortSymbols : Text := "-=<>|,&~+*/%;()."

/-- The token at the front of a text, and its length. -/
def tokenAt : Text → SqlTokenKind × Nat
  | [] => (.illegal, 0)
  | point :: rest =>
      let text := point :: rest
      let nextIsDigit := rest.head?.any CodePoint.isAsciiDigit
      if point = '\'' || point = '"' || point.val = 0x60 then quoted point rest
      else if point = '[' then quoted ']' rest
      else if point.isAsciiDigit || (point = '.' && nextIsDigit) then numberAt text
      else if (point = 'x' || point = 'X') && rest.head? == some (CodePoint.ofChar '\'') then
        blobAt (rest.drop 1)
      else if point = '$' || point = '@' || point = '#' || point = ':' then
        let (length, valid) := variableLength false rest
        (if valid then .variable else .illegal, length + 1)
      else if point = '?' then (.variable, 1 + (rest.takeWhile CodePoint.isAsciiDigit).length)
      else if isWordPoint point then (.word, (text.takeWhile isWordPoint).length)
      else
        match longSymbols.find? fun symbol => Text.startsWith text symbol with
        | some found => (.symbol, found.length)
        | none => (if shortSymbols.contains point then .symbol else .illegal, 1)

/-- The tokens of a text. -/
def scan : Nat → Text → List SqlToken
  | 0, _ => []
  | fuel + 1, text =>
      let space := separation text.length text
      let rest := text.drop space
      if rest.isEmpty then []
      else
        let (kind, length) := tokenAt rest
        { kind, before := text.take space, written := rest.take length } ::
          scan fuel (rest.drop length)

/-- The tokens of a statement. -/
def ofText (text : Text) : List SqlToken := scan text.length text

/-- Whether a token is a word of the language, in any case. -/
def isWord (word : Text) (token : SqlToken) : Bool :=
  token.kind = .word && token.written.toAsciiLower = word

def isSymbol (symbol : Text) (token : SqlToken) : Bool :=
  token.kind = .symbol && token.written = symbol

/-- The text of neighbouring tokens, without what stands in front of the first one. -/
def span : List SqlToken → Text
  | [] => []
  | token :: tokens => token.written ++ tokens.flatMap fun next => next.before ++ next.written

end SqlToken

end EventForge
