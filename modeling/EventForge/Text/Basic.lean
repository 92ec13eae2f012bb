/-!
# Text

Documents may name any Unicode code point in an escape, surrogates included, and no `Char` holds a
surrogate.  Text is therefore a list of code points.  This file holds the type, the passage from and
to `String`, and the operations on text that the rest of the library shares.  Text is ordered by
code point, which is the order of the underlying lists.  The classes of code points are digits, whose
values count, and blanks, which end words.
-/

namespace EventForge

/-- A Unicode code point, surrogates included. -/
abbrev CodePoint := Fin 0x110000

/-- There are code points, so that a number can be read as one. -/
instance CodePoint.instNeZero : @NeZero Nat Zero.ofOfNat0 0x110000 :=
  @NeZero.mk Nat Zero.ofOfNat0 0x110000 (Nat.succ_ne_zero 0x10FFFF)

/-- A sequence of code points. -/
abbrev Text := List CodePoint

namespace CodePoint

/-- The code point of a character. -/
def ofChar (char : Char) : CodePoint :=
  ⟨char.toNat, by
    have valid := char.valid
    unfold Char.toNat
    simp only [UInt32.isValidChar, Nat.isValidChar] at valid
    omega⟩

instance : Coe Char CodePoint := ⟨ofChar⟩

/-- The code point with the given number, or U+FFFD beyond the last one. -/
def ofNat (number : Nat) : CodePoint :=
  if bound : number < 0x110000 then ⟨number, bound⟩ else 0xFFFD

def lineFeed : CodePoint := 10

/-- Surrogates stand for no character of their own. -/
def isSurrogate (point : CodePoint) : Bool :=
  0xD800 ≤ point.val && point.val < 0xE000

/-- Whether the code point lies between two characters, both included. -/
def within (point : CodePoint) (low high : Char) : Bool :=
  low.toNat ≤ point.val && point.val ≤ high.toNat

def isAsciiUpper (point : CodePoint) : Bool := point.within 'A' 'Z'

def isAsciiLower (point : CodePoint) : Bool := point.within 'a' 'z'

def isAsciiLetter (point : CodePoint) : Bool := point.isAsciiUpper || point.isAsciiLower

def isAsciiDigit (point : CodePoint) : Bool := point.within '0' '9'

def isAsciiAlphanumeric (point : CodePoint) : Bool := point.isAsciiLetter || point.isAsciiDigit

/-- An ASCII capital becomes its small letter; every other code point stays. -/
def toAsciiLower (point : CodePoint) : CodePoint :=
  if point.isAsciiUpper then ofNat (point.val + 32) else point

/-- The value of a hexadecimal digit. -/
def hexValue? (point : CodePoint) : Option Nat :=
  if point.isAsciiDigit then some (point.val - 48)
  else if point.within 'a' 'f' then some (point.val - 87)
  else if point.within 'A' 'F' then some (point.val - 55)
  else none

end CodePoint

namespace Text

def ofString (string : String) : Text := string.toList.map CodePoint.ofChar

instance : Coe String Text := ⟨ofString⟩

/-- The text as a string; a lone surrogate becomes U+FFFD. -/
def toString (text : Text) : String :=
  String.ofList (text.map fun point => if point.isSurrogate then '\uFFFD' else Char.ofNat point.val)

/-- Decimal digits of a natural number, most significant first. -/
def ofNat (number : Nat) : Text := ofString (Nat.repr number)

/-- Decimal digits of an integer, after a minus sign if it is negative. -/
def ofInt : Int → Text
  | .ofNat number => ofNat number
  | .negSucc number => (0x2D : CodePoint) :: ofNat (number + 1)

/-- Digits of a number in base sixteen, at least `width` of them. -/
def ofHex (width number : Nat) : Text :=
  let digits := (Nat.toDigits 16 number).map CodePoint.ofChar
  List.replicate (width - digits.length) (0x30 : CodePoint) ++ digits

/-- The number that ASCII digits name. -/
def digitsValue (digits : Text) : Nat :=
  digits.foldl (fun number digit => number * 10 + (digit.val - 48)) 0

/-- Pieces put one after the other with a separator between neighbours. -/
def join (separator : Text) : List Text → Text
  | [] => []
  | [piece] => piece
  | piece :: pieces => piece ++ separator ++ join separator pieces

def startsWith (text lead : Text) : Bool := lead.isPrefixOf text

def endsWith (text tail : Text) : Bool := tail.isSuffixOf text

/-- What is left of the text after a leading part, if the text starts with it. -/
def dropLead? : Text → Text → Option Text
  | text, [] => some text
  | [], _ :: _ => none
  | point :: rest, leadPoint :: lead =>
      if point = leadPoint then dropLead? rest lead else none

/-- The pieces of a text between the occurrences of a separating code point. -/
def splitAt (separator : CodePoint) : Text → List Text
  | [] => [[]]
  | point :: rest =>
      if point = separator then [] :: splitAt separator rest
      else
        match splitAt separator rest with
        | [] => [[point]]
        | piece :: pieces => (point :: piece) :: pieces

/-- The pieces of a text between the leftmost disjoint occurrences of a separator, which is the
code point `first` followed by `second`. -/
def splitPair (first second : CodePoint) : Text → List Text
  | [] => [[]]
  | [point] => [[point]]
  | point :: next :: rest =>
      if point = first ∧ next = second then [] :: splitPair first second rest
      else
        match splitPair first second (next :: rest) with
        | [] => [[point]]
        | piece :: pieces => (point :: piece) :: pieces

/-- Lines of a text: the pieces between line feeds. -/
def lines (text : Text) : List Text := splitAt '\n' text

/-- The text without the code points that satisfy `drop` at its two ends. -/
def trim (drop : CodePoint → Bool) (text : Text) : Text :=
  ((text.dropWhile drop).reverse.dropWhile drop).reverse

def toAsciiLower (text : Text) : Text := text.map CodePoint.toAsciiLower

/-- The text with each occurrence of one code point replaced by another. -/
def replacePoint (old new : CodePoint) (text : Text) : Text :=
  text.map fun point => if point = old then new else point

/-- Texts are compared by their code points, from the first on. -/
def le : Text → Text → Bool
  | [], _ => true
  | _ :: _, [] => false
  | first :: firsts, second :: seconds =>
      first.val < second.val || (first.val = second.val && le firsts seconds)

/-- The texts in ascending order. -/
def sort (texts : List Text) : List Text := texts.mergeSort le

/-- The text of a list of values, in brackets with commas. -/
def bracketed (pieces : List Text) : Text := "[" ++ join ", " pieces ++ "]"

/-- Whether a text occurs in another one. -/
def containsText (text part : Text) : Bool :=
  match text with
  | [] => part.isEmpty
  | point :: rest => part.isPrefixOf (point :: rest) || containsText rest part

end Text

/-!
## Ranges of code points

Unicode properties are given as ascending lists of ranges, both ends included.
-/

/-- Whether a code point lies in one of the ranges. -/
def CodePoint.inRanges (point : CodePoint) (ranges : List (Nat × Nat)) : Bool :=
  ranges.any fun range => range.1 ≤ point.val && point.val ≤ range.2

/-!
## Digits

Every script writes its decimal digits as ten neighbouring code points, so the zeros alone
determine the value of each.  The wider class of digits also holds superscripts and the like, which
have no place in a number.
-/

namespace CodePoint

/-- The code points with the decimal value zero. -/
def decimalZeros : List Nat := [
  0x30, 0x660, 0x6F0, 0x7C0, 0x966, 0x9E6, 0xA66, 0xAE6, 0xB66, 0xBE6, 0xC66, 0xCE6, 0xD66, 0xDE6,
  0xE50, 0xED0, 0xF20, 0x1040, 0x1090, 0x17E0, 0x1810, 0x1946, 0x19D0, 0x1A80, 0x1A90, 0x1B50,
  0x1BB0, 0x1C40, 0x1C50, 0xA620, 0xA8D0, 0xA900, 0xA9D0, 0xA9F0, 0xAA50, 0xABF0, 0xFF10, 0x104A0,
  0x10D30, 0x11066, 0x110F0, 0x11136, 0x111D0, 0x112F0, 0x11450, 0x114D0, 0x11650, 0x116C0, 0x11730,
  0x118E0, 0x11950, 0x11C50, 0x11D50, 0x11DA0, 0x16A60, 0x16AC0, 0x16B50, 0x1D7CE, 0x1D7D8, 0x1D7E2,
  0x1D7EC, 0x1D7F6, 0x1E140, 0x1E2F0, 0x1E950, 0x1FBF0]

/-- The ranges of the wider class of digits. -/
def digitRanges : List (Nat × Nat) := [
  (0x30, 0x39), (0xB2, 0xB3), (0xB9, 0xB9), (0x660, 0x669), (0x6F0, 0x6F9), (0x7C0, 0x7C9),
  (0x966, 0x96F), (0x9E6, 0x9EF), (0xA66, 0xA6F), (0xAE6, 0xAEF), (0xB66, 0xB6F), (0xBE6, 0xBEF),
  (0xC66, 0xC6F), (0xCE6, 0xCEF), (0xD66, 0xD6F), (0xDE6, 0xDEF), (0xE50, 0xE59), (0xED0, 0xED9),
  (0xF20, 0xF29), (0x1040, 0x1049), (0x1090, 0x1099), (0x1369, 0x1371), (0x17E0, 0x17E9),
  (0x1810, 0x1819), (0x1946, 0x194F), (0x19D0, 0x19DA), (0x1A80, 0x1A89), (0x1A90, 0x1A99),
  (0x1B50, 0x1B59), (0x1BB0, 0x1BB9), (0x1C40, 0x1C49), (0x1C50, 0x1C59), (0x2070, 0x2070),
  (0x2074, 0x2079), (0x2080, 0x2089), (0x2460, 0x2468), (0x2474, 0x247C), (0x2488, 0x2490),
  (0x24EA, 0x24EA), (0x24F5, 0x24FD), (0x24FF, 0x24FF), (0x2776, 0x277E), (0x2780, 0x2788),
  (0x278A, 0x2792), (0xA620, 0xA629), (0xA8D0, 0xA8D9), (0xA900, 0xA909), (0xA9D0, 0xA9D9),
  (0xA9F0, 0xA9F9), (0xAA50, 0xAA59), (0xABF0, 0xABF9), (0xFF10, 0xFF19), (0x104A0, 0x104A9),
  (0x10A40, 0x10A43), (0x10D30, 0x10D39), (0x10E60, 0x10E68), (0x11052, 0x1105A),
  (0x11066, 0x1106F), (0x110F0, 0x110F9), (0x11136, 0x1113F), (0x111D0, 0x111D9),
  (0x112F0, 0x112F9), (0x11450, 0x11459), (0x114D0, 0x114D9), (0x11650, 0x11659),
  (0x116C0, 0x116C9), (0x11730, 0x11739), (0x118E0, 0x118E9), (0x11950, 0x11959),
  (0x11C50, 0x11C59), (0x11D50, 0x11D59), (0x11DA0, 0x11DA9), (0x16A60, 0x16A69),
  (0x16AC0, 0x16AC9), (0x16B50, 0x16B59), (0x1D7CE, 0x1D7FF), (0x1E140, 0x1E149),
  (0x1E2F0, 0x1E2F9), (0x1E950, 0x1E959), (0x1F100, 0x1F10A), (0x1FBF0, 0x1FBF9)]

/-- The value of a decimal digit of any script. -/
def decimalValue? (point : CodePoint) : Option Nat :=
  if point.isAsciiDigit then some (point.val - 48)
  else
    (decimalZeros.find? fun first => first ≤ point.val && point.val < first + 10).map
      (point.val - ·)

def isDecimal (point : CodePoint) : Bool := point.decimalValue?.isSome

/-- Whether the code point is a digit, a superscript or circled one included. -/
def isDigit (point : CodePoint) : Bool := point.inRanges digitRanges

end CodePoint

/-!
## Blanks

White space is every code point of bidirectional class WS, B or S and every space separator.
Trimming, splitting into words and reading numbers use this set.
-/

namespace CodePoint

/-- The ranges of white space. -/
def blankRanges : List (Nat × Nat) := [
  (0x9, 0xD), (0x1C, 0x20), (0x85, 0x85), (0xA0, 0xA0), (0x1680, 0x1680), (0x2000, 0x200A),
  (0x2028, 0x2029), (0x202F, 0x202F), (0x205F, 0x205F), (0x3000, 0x3000)]

def isBlank (point : CodePoint) : Bool := point.inRanges blankRanges

end CodePoint

namespace Text

/-- The text without the blanks at its two ends. -/
def strip (text : Text) : Text := trim CodePoint.isBlank text

/-- Appends the word that ends here to the words found so far. -/
def addWord (word : Text) (words : List Text) : List Text :=
  if word.isEmpty then words else word :: words

/-- The words of the text after the code points of a word that has begun. -/
def wordsFrom (word : Text) : Text → List Text
  | [] => addWord word []
  | point :: rest =>
      if point.isBlank then addWord word (wordsFrom [] rest)
      else wordsFrom (word ++ [point]) rest

/-- The maximal stretches of a text that hold no blank. -/
def words (text : Text) : List Text := wordsFrom [] text

end Text

end EventForge
