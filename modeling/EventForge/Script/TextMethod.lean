import EventForge.Script.Binding
import EventForge.Script.Encoding
import EventForge.Script.TextTemplate
import EventForge.Text.Case
import EventForge.Text.Basic

/-!
# Methods of texts and bytes

Texts and bytes are searched, split and written in other ways by the same methods.  Those of bytes
only know the letters and blanks of ASCII.
-/

namespace EventForge

/-!
## Parts of texts

A part stands at the places of a text where its points follow each other.  Texts are split and
joined at the places of a part, from the left or from the right.
-/

namespace Text

/-- The first place at which a part stands, counted from `position`. -/
def findFrom (part : Text) (position : Nat) : Text → Option Nat
  | [] => if part.isEmpty then some position else none
  | point :: rest =>
      if part.isPrefixOf (point :: rest) then some position
      else findFrom part (position + 1) rest

def find? (text part : Text) : Option Nat := findFrom part 0 text

/-- The last place at which a part stands. -/
def findLast? (text part : Text) : Option Nat :=
  (find? text.reverse part.reverse).map fun place => text.length - part.length - place

/-- How often a part stands in a text, where each place is used once.  The fuel bounds the length of
the text. -/
def countFrom (part : Text) : Nat → Text → Nat
  | 0, _ => 0
  | fuel + 1, text =>
      match find? text part with
      | some place => countFrom part fuel (text.drop (place + part.length)) + 1
      | none => 0

def count (text part : Text) : Nat :=
  if part.isEmpty then text.length + 1 else countFrom part (text.length + 1) text

/-- The pieces between the places of a part, at most so many places from the left. -/
def splitFrom (part : Text) : Nat → Text → List Text
  | 0, text => [text]
  | most + 1, text =>
      match find? text part with
      | some place =>
          text.take place :: splitFrom part most (text.drop (place + part.length))
      | none => [text]

/-- The pieces between the places of a part that is not empty. -/
def splitBy (text part : Text) (most : Option Nat) : List Text :=
  splitFrom part (most.getD text.length) text

/-- The pieces between the places of a part, taken from the right. -/
def splitByLast (text part : Text) (most : Option Nat) : List Text :=
  ((splitBy text.reverse part.reverse most).map List.reverse).reverse

/-- The words of a text, at most so many of them and then all else. -/
def splitWords (isSpace : CodePoint → Bool) : Nat → Text → List Text
  | 0, text => if (text.dropWhile isSpace).isEmpty then [] else [text.dropWhile isSpace]
  | most + 1, text =>
      match text.dropWhile isSpace with
      | [] => []
      | rest =>
          let word : Text := rest.takeWhile fun (point : CodePoint) => !isSpace point
          word :: splitWords isSpace most (rest.drop word.length)

def wordsBy (isSpace : CodePoint → Bool) (text : Text) (most : Option Nat) : List Text :=
  splitWords isSpace (most.getD text.length) text

def wordsByLast (isSpace : CodePoint → Bool) (text : Text) (most : Option Nat) : List Text :=
  ((wordsBy isSpace text.reverse most).map List.reverse).reverse

/-- A text with a part replaced at its places, at most so many of them. -/
def replaceParts (text part other : Text) (most : Option Nat) : Text :=
  if part.isEmpty then
    let most := (most.getD (text.length + 1)).min (text.length + 1)
    (text.zipIdx.flatMap fun entry =>
      if entry.2 < most then other ++ [entry.1] else [entry.1]) ++
      (if text.length < most then other else [])
  else join other (splitBy text part most)

/-- Whether a point ends a line. -/
def isLineEnd (point : CodePoint) : Bool :=
  (0x0A ≤ point.val && point.val ≤ 0x0D) || (0x1C ≤ point.val && point.val ≤ 0x1E) ||
    point.val = 0x85 || point.val = 0x2028 || point.val = 0x2029

/-- The lines of a text, each with its end if `keeps`.  The fuel bounds their number. -/
def splitLines (isEnd : CodePoint → Bool) (keeps : Bool) : Nat → Text → List Text
  | 0, _ => []
  | _, [] => []
  | fuel + 1, text =>
      let line : Text := text.takeWhile fun (point : CodePoint) => !isEnd point
      match text.drop line.length with
      | [] => [line]
      | ending :: rest =>
          let isPair := ending = '\r' && rest.head? = some '\n'
          let ends : Text := if isPair then [ending, '\n'] else [ending]
          (if keeps then line ++ ends else line) ::
            splitLines isEnd keeps fuel (if isPair then rest.drop 1 else rest)

/-- A point between two cases is written so at the beginning of a word. -/
def toTitle (point : CodePoint) : Text :=
  match point.val with
  | 0xDF => "Ss"
  | 0xFB01 => "Fi"
  | 0xFB02 => "Fl"
  | _ => point.toUpper

/-- The first letter of each word in upper case, and all others in lower case. -/
def titleFrom (isLetter : CodePoint → Bool) (behindLetter : Bool) : Text → Text
  | [] => []
  | point :: rest =>
      let written := if !isLetter point then [point]
        else if behindLetter then point.toLower else toTitle point
      written ++ titleFrom isLetter (isLetter point) rest

def title (text : Text) : Text := titleFrom CodePoint.isCased false text

def capitalize : Text → Text
  | [] => []
  | point :: rest => toTitle point ++ lower rest

/-- Upper case in place of lower case, and the other way round. -/
def swapCase (text : Text) : Text :=
  text.flatMap fun point =>
    if point.toLower ≠ [point] then point.toLower else point.toUpper

/-- A text with blanks in place of tabs, which end at multiples of a width. -/
def expandTabs (width : Nat) (column : Nat) : Text → Text
  | [] => []
  | point :: rest =>
      if point = '\t' then
        let blanks := if width = 0 then 0 else width - column % width
        List.replicate blanks (0x20 : CodePoint) ++ expandTabs width (column + blanks) rest
      else if point = '\n' || point = '\r' then point :: expandTabs width 0 rest
      else point :: expandTabs width (column + 1) rest

/-- Whether a text has letters of two cases, all of them in one. -/
def isInCase (change : CodePoint → Text) (other : CodePoint → Text) (text : Text) : Bool :=
  (text.any fun point => change point = [point] && other point ≠ [point]) &&
    text.all fun point => change point = [point]

def isUpper (text : Text) : Bool := isInCase CodePoint.toUpper CodePoint.toLower text

def isLower (text : Text) : Bool := isInCase CodePoint.toLower CodePoint.toUpper text

/-- Whether words begin in upper case and go on in lower case. -/
def isTitleFrom (behindLetter found : Bool) : Text → Bool
  | [] => found
  | point :: rest =>
      let isHigh := point.toLower ≠ [point]
      let isLow := point.toUpper ≠ [point]
      if isHigh then !behindLetter && isTitleFrom true true rest
      else if isLow then behindLetter && isTitleFrom true true rest
      else isTitleFrom point.isCased found rest

end Text

/-!
## Methods

A method reads its arguments and gives a text, or bytes if its own value is made of them.
-/

namespace CodePoint

/-- Whether a point is a letter, as far as the known ranges tell. -/
def isLetter (point : CodePoint) : Bool :=
  point.isAsciiLetter || (0x80 ≤ point.val && (point.isCased ||
    (0x370 ≤ point.val && point.isPrintable && !point.isDigit &&
      !point.inRanges [(0x2000, 0x2BFF), (0x3000, 0x3004), (0xFE00, 0xFE6F), (0xFF01, 0xFF20),
        (0x1F000, 0x1FFFF)])))

def isAsciiBlank (point : CodePoint) : Bool :=
  point.val = 0x20 || (0x09 ≤ point.val && point.val ≤ 0x0D)

end CodePoint

namespace ScriptRun

/-- Texts or bytes, as the points that stand for them. -/
structure Writing where
  isBytes : Bool
  isBuffer : Bool := false
deriving DecidableEq, Repr, Inhabited

namespace Writing

def kind (writing : Writing) : Text :=
  if writing.isBuffer then "bytearray" else if writing.isBytes then "bytes" else "str"

def isSpace (writing : Writing) (point : CodePoint) : Bool :=
  if writing.isBytes then point.isAsciiBlank else point.isBlank

def isLineEnd (writing : Writing) (point : CodePoint) : Bool :=
  if writing.isBytes then point = '\n' || point = '\r' else Text.isLineEnd point

end Writing

def bytesOfPoints (points : Text) : Bytes := points.map fun point => UInt8.ofNat point.val

/-- The value that points stand for. -/
def written (writing : Writing) (points : Text) : ScriptRun ScriptValue := do
  if writing.isBuffer then keepValue (.buffer (bytesOfPoints points))
  else if writing.isBytes then return .bytes (bytesOfPoints points)
  else return .text points

def writtenList (writing : Writing) (pieces : List Text) : ScriptRun ScriptValue := do
  newList (← pieces.mapM (written writing))

/-- The points of a value that stands for the same kind of writing. -/
def points? (writing : Writing) (value : ScriptValue) : ScriptRun (Option Text) := do
  match ← contentOf value with
  | .unknown => return some []
  | .text content => return if writing.isBytes then none else some content
  | content =>
      if writing.isBytes then
        return (← bytes? content).map numberText
      return none

/-- The points of an argument. -/
def pointsOf (writing : Writing) (value : ScriptValue) (refusal : Text → Text) :
    ScriptRun Text := do
  match ← points? writing value with
  | some points => return points
  | none =>
      let kind ← kindName value
      if writing.isBytes then
        refuseType (("a bytes-like object is required, not " : Text) ++ Quoted.ofText kind)
      else refuseType (refusal kind)

def mustBeText (kind : Text) : Text := ("must be str, not " : Text) ++ kind

/-- The part of points between two bounds, and where it begins. -/
def boundedPart (points : Text) (bounds : List ScriptValue) : ScriptRun (Text × Nat × Bool) := do
  let start ← bound? (bounds.getD 0 .nothing)
  let stop ← bound? (bounds.getD 1 .nothing)
  let length : Int := points.length
  let clamped (bound : Int) : Int := max 0 (min length (if bound < 0 then bound + length else bound))
  let begins := (start.getD 0)
  let first := (if begins < 0 then max 0 (begins + length) else begins)
  let last := clamped (stop.getD length)
  if last < first then return ([], 0, false)
  return ((points.take last.toNat).drop first.toNat, first.toNat, true)

/-- The points of a part that is looked for; a number stands for a byte. -/
def partOf (writing : Writing) (value : ScriptValue) : ScriptRun Text := do
  match ← points? writing value with
  | some points => return points
  | none =>
      if writing.isBytes then
        match ← index? value with
        | some number =>
            if number < 0 || 255 < number then refuseValue "byte must be in range(0, 256)"
            return [CodePoint.ofNat number.toNat]
        | none =>
            refuseType (("argument should be integer or bytes-like object, not " : Text) ++
              Quoted.ofText (← kindName value))
      refuseType (mustBeText (← kindName value))

/-- The place of a part between bounds. -/
def placeOfPart (writing : Writing) (name : Text) (isLast : Bool) (points : Text)
    (arguments : ScriptArguments) : ScriptRun (Option Nat) := do
  match arguments.given with
  | [] => refuseType (name ++ "() takes at least 1 argument (0 given)")
  | part :: bounds =>
      let (inner, start, isThere) ← boundedPart points bounds
      let part ← partOf writing part
      if !isThere then return none
      return (if isLast then inner.findLast? part else inner.find? part).map fun place =>
        place + start

/-- Whether points begin or end with one of some parts. -/
def hasEdge (writing : Writing) (name : Text) (isEnd : Bool) (points : Text)
    (arguments : ScriptArguments) : ScriptRun ScriptValue := do
  match arguments.given with
  | [] => refuseType (name ++ "() takes at least 1 argument (0 given)")
  | part :: bounds =>
      let (inner, _, isThere) ← boundedPart points bounds
      let holds (part : Text) : Bool := isThere &&
        (if isEnd then inner.endsWith part else inner.startsWith part)
      match ← contentOf part with
      | .tuple parts =>
          return .bool (← parts.anyM fun part => do
            match ← points? writing part with
            | some part => return holds part
            | none =>
                refuseType (("tuple for " : Text) ++ name ++ " must only contain " ++
                  writing.kind ++ ", not " ++ (← kindName part)))
      | _ =>
          match ← points? writing part with
          | some part => return .bool (holds part)
          | none =>
              let kind := if writing.isBytes then ("bytes" : Text) else "str"
              refuseType (name ++ " first arg must be " ++ kind ++ " or a tuple of " ++
                kind ++ ", not " ++ (← kindName part))

/-- What is stripped off the ends of points. -/
def stripped (writing : Writing) (name : Text) (points : Text) (arguments : ScriptArguments) :
    ScriptRun ScriptValue := do
  let given ← plainArguments name 0 (some 1) arguments
  let drops ←
    match given with
    | [] | [.nothing] => pure (writing.isSpace)
    | value :: _ =>
        let set ← pointsOf writing value fun _ => name ++ " arg must be None or str"
        pure (fun (point : CodePoint) => set.contains point)
  let left := if name = ("rstrip" : Text) then points else points.dropWhile drops
  written writing (if name = ("lstrip" : Text) then left
    else (left.reverse.dropWhile drops).reverse)

/-- The pieces of points between separators. -/
def pieces (writing : Writing) (name : Text) (fromRight : Bool) (points : Text)
    (arguments : ScriptArguments) : ScriptRun ScriptValue := do
  let places ← namedArguments name ["sep", "maxsplit"] 0 arguments
  let most ← indexOf (argument places 1 (.integer (-1)))
  let most : Option Nat := if most < 0 then none else some most.toNat
  match argument places 0 .nothing with
  | .nothing =>
      writtenList writing (if fromRight then points.wordsByLast writing.isSpace most
        else points.wordsBy writing.isSpace most)
  | separator =>
      let part ← pointsOf writing separator fun kind => ("must be str or None, not " : Text) ++ kind
      if part.isEmpty then refuseValue "empty separator"
      writtenList writing (if fromRight then points.splitByLast part most
        else points.splitBy part most)

/-- Points in the middle or at an edge of a width. -/
def aligned (writing : Writing) (name : Text) (points : Text) (arguments : ScriptArguments) :
    ScriptRun ScriptValue := do
  let given ← plainArguments name 1 (some 2) arguments
  let width ← indexOf (given.getD 0 .nothing)
  let fill ←
    match given with
    | _ :: fill :: _ =>
        match ← points? writing fill with
        | some [fill] => pure fill
        | some _ => refuseType "The fill character must be exactly one character long"
        | none =>
            refuseType (("The fill character must be a unicode character, not " : Text) ++
              (← kindName fill))
    | _ => pure ' '
  let missing := width.toNat - points.length
  let filled (count : Nat) : Text := List.replicate count fill
  let before :=
    if name = ("ljust" : Text) then 0
    else if name = ("rjust" : Text) then missing
    else missing / 2 + (if missing % 2 = 1 && width.toNat % 2 = 1 then 1 else 0)
  written writing (filled before ++ points ++ filled (missing - before))

/-- Points between which others stand. -/
def joined (writing : Writing) (points : Text) (items : ScriptValue) : ScriptRun ScriptValue := do
  let items ← tryCatch (itemsOf items) fun stop => do
    if ← isFaultOf stop "TypeError" then
      if (← method? items "__iter__").isSome then throw stop
      if (← iterateContent? (← contentOf items)).isSome then throw stop
      refuseType "can only join an iterable"
    else throw stop
  let pieces ← items.zipIdx.mapM fun entry => do
    match ← points? writing entry.1 with
    | some piece => return piece
    | none =>
        let expected : Text := if writing.isBytes then "a bytes-like object" else "str instance"
        refuseType (("sequence item " : Text) ++ Text.ofNat entry.2 ++ ": expected " ++ expected ++
          ", " ++ (← kindName entry.1) ++ " found")
  written writing (Text.join points pieces)

/-- Points with a part replaced. -/
def replacing (writing : Writing) (points : Text) (arguments : ScriptArguments) :
    ScriptRun ScriptValue := do
  let given ← plainArguments "replace" 2 (some 3) arguments
  let part ← pointsOf writing (given.getD 0 .nothing) (refusal 1)
  let other ← pointsOf writing (given.getD 1 .nothing) (refusal 2)
  let most ← indexOf (given.getD 2 (.integer (-1)))
  written writing (points.replaceParts part other (if most < 0 then none else some most.toNat))
where
  refusal (place : Nat) (kind : Text) : Text :=
    ("replace() argument " : Text) ++ Text.ofNat place ++ " must be str, not " ++ kind

/-- The pieces before, at and behind a part. -/
def partitioned (writing : Writing) (name : Text) (points : Text) (arguments : ScriptArguments) :
    ScriptRun ScriptValue := do
  let value ← oneArgument (writing.kind ++ "." ++ name) arguments
  let part ← pointsOf writing value mustBeText
  if part.isEmpty then refuseValue "empty separator"
  let isLast := name = ("rpartition" : Text)
  let pieces : List Text :=
    match if isLast then points.findLast? part else points.find? part with
    | some place => [points.take place, part, points.drop (place + part.length)]
    | none => if isLast then [[], [], points] else [points, [], []]
  return .tuple (← pieces.mapM (written writing))

/-- The bytes of a text by a way of writing it. -/
def encoded (content encoding mode : Text) : ScriptRun ScriptValue := do
  match ScriptEncoding.ofName? encoding with
  | none => refuse "LookupError" (("unknown encoding: " : Text) ++ encoding)
  | some .utf8 =>
      match Utf8.encode content with
      | .ok bytes => return .bytes bytes
      | .error error =>
          if mode = ("ignore" : Text) then
            return .bytes (Utf8.encodeAll (content.filter fun point => !point.isSurrogate))
          if mode = ("replace" : Text) then
            return .bytes (Utf8.encodeAll (content.map fun point =>
              if point.isSurrogate then '?' else point))
          let start := content.findIdx CodePoint.isSurrogate
          let _ := error
          raiseWith "UnicodeEncodeError" [.text "utf-8", .text content, .integer start,
            .integer (start + 1), .text "surrogates not allowed"]
  | some other =>
      let limit := if other = .ascii then 0x80 else 0x100
      let codec : Text := if other = .ascii then "ascii" else "latin-1"
      let isBeyond (point : CodePoint) : Bool := limit ≤ point.val
      let plain (points : Text) : ScriptRun ScriptValue := return .bytes (bytesOfPoints points)
      if !content.any isBeyond then return ← plain content
      if mode = ("ignore" : Text) then
        return ← plain (content.filter fun point => !isBeyond point)
      if mode = ("replace" : Text) then
        return ← plain (content.map fun point => if isBeyond point then '?' else point)
      if mode = ("backslashreplace" : Text) then
        return ← plain (content.flatMap fun point =>
          if isBeyond point then Quoted.numericEscape point else [point])
      let start := content.findIdx isBeyond
      let run := (content.drop start).takeWhile isBeyond
      raiseWith "UnicodeEncodeError" [.text codec, .text content, .integer start,
        .integer (start + run.length),
        .text (("ordinal not in range(" : Text) ++ Text.ofNat (if other = .ascii then 128 else 256)
          ++ ")")]

/-- The text that bytes stand for by a way of writing it. -/
def decoded (content : Bytes) (encoding mode : Text) : ScriptRun ScriptValue := do
  match ScriptEncoding.ofName? encoding with
  | none => refuse "LookupError" (("unknown encoding: " : Text) ++ encoding)
  | some .utf8 =>
      match Utf8.decode content with
      | .ok text => return .text text
      | .error error =>
          if mode = ("ignore" : Text) || mode = ("replace" : Text) then
            let marked := Script.markedFrom 0 content
            let isMark (point : CodePoint) : Bool := 0xDC80 ≤ point.val && point.val ≤ 0xDCFF
            return .text (if mode = ("ignore" : Text) then
              marked.filter fun point => !isMark point
              else marked.map fun point => if isMark point then 0xFFFD else point)
          raiseWith "UnicodeDecodeError" [.text "utf-8", .bytes content, .integer error.position,
            .integer (error.position + error.length), .text error.fault.message]
  | some other =>
      match other.decode content with
      | .ok text => return .text text
      | .error _ =>
          let start := content.findIdx fun byte => 0x80 ≤ byte.toNat
          raiseWith "UnicodeDecodeError" [.text "ascii", .bytes content, .integer start,
            .integer (start + 1), .text "ordinal not in range(128)"]

/-- The names of the way of writing a text, and of what happens with the rest. -/
def codecNames (name : Text) (arguments : ScriptArguments) : ScriptRun (Text × Text) := do
  let places ← namedArguments name ["encoding", "errors"] 0 arguments
  let refusal (argument kind : Text) : Text :=
    name ++ "() argument '" ++ argument ++ "' must be str, not " ++ kind
  return (← textOf (argument places 0 (.text "utf-8")) (refusal "encoding"),
    ← textOf (argument places 1 (.text "strict")) (refusal "errors"))

/-- What a table says about a point. -/
def translated (table : ScriptValue) (point : CodePoint) : ScriptRun Text := do
  let found ← tryCatch (itemAt table (.integer point.val)) fun stop => do
    if ← isFaultOf stop "LookupError" then return .text [point] else throw stop
  match found with
  | .text content => return content
  | .nothing => return []
  | .integer number => return [CodePoint.ofNat number.toNat]
  | .unknown => return [point]
  | _ => refuseType "character mapping must return integer, None or str"

/-- A table for `translated`. -/
def translationTable (given : List ScriptValue) : ScriptRun ScriptValue := do
  let number (point : CodePoint) : ScriptValue := .integer point.val
  match given with
  | [table] =>
      match ← entries? (← contentOf table) with
      | none => refuseType "if you give only one argument to maketrans it must be a dict"
      | some entries =>
          newMapping (← entries.toList.mapM fun entry => do
            match entry.1 with
            | .text [point] => return (number point, entry.2)
            | .text _ => refuseValue "string keys in translate table must be of length 1"
            | key => return (key, entry.2))
  | .text first :: .text second :: rest =>
      if first.length ≠ second.length then
        refuseValue "the first two maketrans arguments must have equal length"
      let place ← keep (.mapping #[])
      putPairs place (first.zip second |>.map fun entry => (number entry.1, number entry.2))
      match rest with
      | .text dropped :: _ => putPairs place (dropped.map fun point => (number point, .nothing))
      | _ => pure ()
      return .object place
  | _ => refuseType "maketrans() argument 2 must be str, not int"
where
  putPairs (place : ObjectPlace) (pairs : List (ScriptValue × ScriptValue)) : ScriptRun Unit :=
    pairs.forM fun entry => putUnder place entry.1 entry.2

/-- Digits of bytes to the base sixteen. -/
def hexText (content : Bytes) : Text := content.flatMap fun byte => Text.ofHex 2 byte.toNat

/-- The digits of bytes with a separator between groups of so many bytes, which are counted from the
end, or from the beginning if their number is negative. -/
def groupedHex (separator : Text) (size : Int) (content : Bytes) : Text :=
  let count := size.natAbs
  if count = 0 then hexText content
  else
    let first := if 0 < size then content.length % count else 0
    let rest := content.drop first
    let groups := (List.range ((rest.length + count - 1) / count)).map fun index =>
      (rest.drop (index * count)).take count
    Text.join separator ((content.take first :: groups).filterMap fun group =>
      if group.isEmpty then none else some (hexText group))

/-- Bytes from pairs of digits to the base sixteen; blanks may stand between them. -/
def bytesOfHex (position : Nat) : Nat → Text → ScriptRun Bytes
  | 0, _ => return []
  | _, [] => return []
  | fuel + 1, point :: rest => do
      if point.isAsciiBlank then return ← bytesOfHex (position + 1) fuel rest
      let refuseAt (place : Nat) : ScriptRun Bytes :=
        refuseValue (("non-hexadecimal number found in fromhex() arg at position " : Text) ++
          Text.ofNat place)
      match point.hexValue?, rest with
      | none, _ => refuseAt position
      | some _, [] => refuseAt (position + 1)
      | some high, second :: others =>
          match second.hexValue? with
          | none => refuseAt (position + 1)
          | some low =>
              return UInt8.ofNat (high * 16 + low) :: (← bytesOfHex (position + 2) fuel others)

/-- Whether all of some points are of a class, and there are some. -/
def allOf (test : CodePoint → Bool) (points : Text) : ScriptValue :=
  .bool (!points.isEmpty && points.all test)

/-- Whether a text could be a name. -/
def isNameText : Text → Bool
  | [] => false
  | point :: rest =>
      (point.isLetter || point = '_') &&
        rest.all fun point => point.isLetter || point.isDecimal || point = '_'

/-- The methods of texts and bytes, by their names. -/
def writingMethod (writing : Writing) (name : String) (points : Text)
    (arguments : ScriptArguments) : ScriptRun ScriptValue := do
  let short := Text.ofString name
  let long := writing.kind ++ "." ++ short
  let changed (change : Text → Text) : ScriptRun ScriptValue := do
    noArguments long arguments
    if writing.isBytes then
      written writing (points.flatMap fun point =>
        if point.val < 0x80 then change [point] else [point])
    else written writing (change points)
  let tested (test : Text → ScriptValue) : ScriptRun ScriptValue := do
    noArguments long arguments
    return test points
  match name with
  | "upper" => changed Text.upper
  | "lower" => changed Text.lower
  | "casefold" => changed Text.fold
  | "swapcase" => changed Text.swapCase
  | "title" =>
      noArguments long arguments
      written writing points.title
  | "capitalize" =>
      noArguments long arguments
      written writing points.capitalize
  | "strip" | "lstrip" | "rstrip" => stripped writing short points arguments
  | "split" => pieces writing short false points arguments
  | "rsplit" => pieces writing short true points arguments
  | "splitlines" =>
      let places ← namedArguments short ["keepends"] 0 arguments
      let keeps ← indexOf (argument places 0 (.bool false))
      writtenList writing
        (points.splitLines writing.isLineEnd (keeps != 0) (points.length + 1))
  | "join" => joined writing points (← oneArgument long arguments)
  | "replace" => replacing writing points arguments
  | "find" | "rfind" | "index" | "rindex" =>
      let found ← placeOfPart writing short (name == "rfind" || name == "rindex") points arguments
      match found with
      | some place => return .integer place
      | none =>
          if name == "find" || name == "rfind" then return .integer (-1)
          refuseValue (if writing.isBytes then "subsection not found" else "substring not found")
  | "count" =>
      match arguments.given with
      | [] => refuseType "count() takes at least 1 argument (0 given)"
      | part :: bounds =>
          let (inner, _, isThere) ← boundedPart points bounds
          let part ← partOf writing part
          return .integer (if isThere then inner.count part else 0)
  | "startswith" => hasEdge writing short false points arguments
  | "endswith" => hasEdge writing short true points arguments
  | "removeprefix" | "removesuffix" =>
      let value ← oneArgument long arguments
      let part ← pointsOf writing value fun kind =>
        short ++ "() argument must be str, not " ++ kind
      if name == "removeprefix" then
        written writing (if points.startsWith part then points.drop part.length else points)
      else
        written writing (if points.endsWith part then points.take (points.length - part.length)
          else points)
  | "partition" | "rpartition" => partitioned writing short points arguments
  | "center" | "ljust" | "rjust" => aligned writing short points arguments
  | "zfill" =>
      let width ← indexOf (← oneArgument long arguments)
      let sign := points.takeWhile fun (point : CodePoint) => point = '+' || point = '-'
      let sign := sign.take 1
      let zeros := List.replicate (width.toNat - points.length) (0x30 : CodePoint)
      written writing (sign ++ zeros ++ points.drop sign.length)
  | "expandtabs" =>
      let places ← namedArguments short ["tabsize"] 0 arguments
      let width ← indexOf (argument places 0 (.integer 8))
      written writing (points.expandTabs width.toNat 0)
  | "isdigit" => tested (allOf fun point => if writing.isBytes then point.isAsciiDigit
      else point.isDigit)
  | "isdecimal" => tested (allOf CodePoint.isDecimal)
  | "isnumeric" => tested (allOf CodePoint.isDigit)
  | "isalpha" => tested (allOf fun point => if writing.isBytes then point.isAsciiLetter
      else point.isLetter)
  | "isalnum" => tested (allOf fun point => if writing.isBytes then point.isAsciiAlphanumeric
      else point.isLetter || point.isDigit)
  | "isspace" => tested (allOf writing.isSpace)
  | "isascii" => tested fun points => .bool (points.all fun point => point.val < 0x80)
  | "isprintable" => tested fun points => .bool (points.all CodePoint.isPrintable)
  | "isidentifier" => tested fun points => .bool (isNameText points)
  | "isupper" => tested fun points => .bool points.isUpper
  | "islower" => tested fun points => .bool points.isLower
  | "istitle" => tested fun points => .bool (points.isTitleFrom false false)
  | "encode" =>
      let (encoding, mode) ← codecNames short arguments
      encoded points encoding mode
  | "decode" =>
      let (encoding, mode) ← codecNames short arguments
      decoded (bytesOfPoints points) encoding mode
  | "hex" =>
      let content := bytesOfPoints points
      let places ← namedArguments long ["sep", "bytes_per_sep"] 0 arguments
      let size ← indexOf (argument places 1 (.integer 1))
      match places.getD 0 none with
      | none => return .text (hexText content)
      | some separator =>
          let separator : Text ←
            match ← bytes? separator with
            | some bytes => pure (numberText bytes)
            | none => textOf separator fun _ => "sep must be str or bytes."
          if separator.length ≠ 1 then refuseValue "sep must be length 1."
          return .text (groupedHex separator size content)
  | "translate" =>
      let table ← oneArgument long arguments
      written writing (← points.mapM (translated table)).flatten
  | "format" =>
      let named (name : Text) : ScriptRun ScriptValue := do
        match arguments.named.get? name with
        | some value => return value
        | none => raiseWith "KeyError" [.text name]
      return .text (← fillFrom points arguments.given named true)
  | "format_map" =>
      let mapping ← oneArgument long arguments
      return .text (← fillFrom points [] (fun name => itemAt mapping (.text name)) false)
  | _ => return .unknown

end ScriptRun

end EventForge
