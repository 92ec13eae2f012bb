import EventForge.Text.Basic
import EventForge.Text.Quoted
import EventForge.Number.Binary64

/-!
# Reading numbers

Numbers may be written with the decimal digits of any script, with single underscores between digits
and with blanks around them.  A decimal integer of more than 4300 digits is refused.  A decimal
fraction is read as the double nearest to its exact value.
-/

namespace EventForge

/-- Why a text is no integer. -/
inductive IntegerFault
  | invalid
  | tooLong (digits : Nat)
deriving DecidableEq, Repr

namespace Reading

/-- The most digits a decimal integer may have. -/
def maxDigits : Nat := 4300

/-- Blanks that may stand around a number. -/
def isNumberBlank (point : CodePoint) : Bool :=
  if point.val < 128 then point = (' ' : CodePoint) || point.within '\t' '\r'
  else point.isBlank

/-- The text with every decimal digit replaced by the ASCII one of the same value. -/
def toAsciiDigits (text : Text) : Text :=
  text.map fun point =>
    match point.decimalValue? with
    | some digit => CodePoint.ofNat (48 + digit)
    | none => point

/-- The value of a digit in bases up to sixteen. -/
def digitIn? (base : Nat) (point : CodePoint) : Option Nat :=
  match point.hexValue? with
  | some digit => if digit < base then some digit else none
  | none => none

/-- The digits at the front of a text, with single underscores between them allowed, and what comes
behind them.  There is no result if an underscore is not between two digits. -/
def digitRun (base : Nat) : Text → Option (List Nat × Text)
  | [] => some ([], [])
  | point :: rest =>
      match digitIn? base point with
      | none => if point = '_' then none else some ([], point :: rest)
      | some digit =>
          match rest with
          | [] => some ([digit], [])
          | next :: more =>
              if next = '_' then
                match more with
                | after :: _ =>
                    if (digitIn? base after).isSome then
                      (digitRun base more).map fun run => (digit :: run.1, run.2)
                    else none
                | [] => none
              else (digitRun base (next :: more)).map fun run => (digit :: run.1, run.2)

/-- The number with the given digits. -/
def ofDigits (base : Nat) (digits : List Nat) : Nat :=
  digits.foldl (fun number digit => number * base + digit) 0

/-- A sign at the front of a text, as whether it is a minus sign, and what comes behind it. -/
def takeSign : Text → Bool × Text
  | [] => (false, [])
  | point :: rest =>
      if point = '-' then (true, rest) else if point = '+' then (false, rest)
      else (false, point :: rest)

/-- The text behind the letters that may announce a base, `0x` for sixteen and so on. -/
def dropBaseMark (base : Nat) (text : Text) : Text :=
  let small : CodePoint := if base = 16 then 'x' else if base = 8 then 'o' else 'b'
  match text with
  | first :: second :: third :: rest =>
      if base ≠ 10 && first = ('0' : CodePoint) && second.toAsciiLower = small then
        if third = '_' then rest else third :: rest
      else text
  | _ => text

/-- Reads an integer in the given base. -/
def integer (base : Nat) (text : Text) : Except IntegerFault Int :=
  let signed := takeSign ((toAsciiDigits text).dropWhile isNumberBlank)
  match digitRun base (dropBaseMark base signed.2) with
  | none => .error .invalid
  | some (digits, rest) =>
      if digits.isEmpty then .error .invalid
      else if base = 10 && maxDigits < digits.length then .error (.tooLong digits.length)
      else if !rest.all isNumberBlank then .error .invalid
      else
        let magnitude : Int := Int.ofNat (ofDigits base digits)
        .ok (if signed.1 then -magnitude else magnitude)

/-- The wording of the refusal of an integer; `shown` is the text between quotes. -/
def integerMessage (base : Nat) (shown : Text) : IntegerFault → Text
  | .invalid =>
      "invalid literal for int() with base " ++ Text.ofNat base ++ ": " ++ shown.take 200
  | .tooLong digits =>
      "Exceeds the limit (4300 digits) for integer string conversion: value has " ++
        Text.ofNat digits ++
        " digits; use sys.set_int_max_str_digits() to increase the limit"

/-- The double nearest to `digits * 10 ^ exponent`.  Beyond the range of doubles the exact power is
not formed. -/
def scaleDecimal (negative : Bool) (digits : Nat) (exponent : Int) : Float :=
  let size : Int := (Nat.repr digits).length
  if digits = 0 || size + exponent < -400 then Binary64.nearest negative 0 1
  else if 400 < size + exponent then Binary64.nearest negative (tenTo 400) 1
  else if exponent < 0 then Binary64.nearest negative digits (tenTo exponent.natAbs)
  else Binary64.nearest negative (digits * tenTo exponent.toNat) 1

/-- Reads an exponent part, if there is one; the rest must be empty. -/
def exponentPart? : Text → Option Int
  | [] => some 0
  | point :: rest =>
      if point.toAsciiLower = ('e' : CodePoint) then
        let signed := takeSign rest
        match digitRun 10 signed.2 with
        | some (digits, []) =>
            if digits.isEmpty then none
            else
              let magnitude : Int := Int.ofNat (ofDigits 10 digits)
              some (if signed.1 then -magnitude else magnitude)
        | _ => none
      else none

/-- Reads a decimal number without sign: digits with at most one point among them and an optional
exponent. -/
def unsignedDecimal? (negative : Bool) (text : Text) : Option Float := do
  let (whole, rest) ← digitRun 10 text
  let (fraction, rest) ←
    match rest with
    | point :: more => if point = '.' then digitRun 10 more else some ([], rest)
    | [] => some ([], [])
  if whole.isEmpty && fraction.isEmpty then none
  else
    let exponent ← exponentPart? rest
    some (scaleDecimal negative (ofDigits 10 (whole ++ fraction)) (exponent - fraction.length))

/-- Reads a double: a decimal number, `inf`, `infinity` or `nan` in any case, with an optional sign
and blanks around it. -/
def float? (text : Text) : Option Float :=
  let signed := takeSign (Text.trim isNumberBlank (toAsciiDigits text))
  let word := Text.toAsciiLower signed.2
  if word = "inf" || word = "infinity" then some (Binary64.nearest signed.1 (tenTo 400) 1)
  else if word = "nan" then some (0.0 / 0.0)
  else unsignedDecimal? signed.1 signed.2

/-- The wording of the refusal of a double. -/
def floatMessage (text : Text) : Text := "could not convert string to float: " ++ Quoted.ofText text

end Reading

end EventForge
