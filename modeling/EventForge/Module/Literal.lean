import EventForge.Json.Basic

/-!
# String literals of a module

A module writes a string between double quotes on one line and keeps every code point that needs no
escape.  Reading knows all escapes that modules may use: by letter, and by octal or hexadecimal
number. A backslash before any other code point stands for itself.
-/

namespace EventForge

namespace Literal

/-- A text as a string literal. -/
def ofText (text : Text) : Text := Json.plainString text

/-- What a letter behind a backslash stands for. -/
def lettered? (letter : CodePoint) : Option CodePoint :=
  if letter = '\\' || letter = '\'' || letter = '"' then some letter
  else if letter = 'a' then some 0x07
  else if letter = 'b' then some 0x08
  else if letter = 'f' then some 0x0C
  else if letter = 'n' then some 0x0A
  else if letter = 'r' then some 0x0D
  else if letter = 't' then some 0x09
  else if letter = 'v' then some 0x0B
  else none

/-- How many hexadecimal digits follow a letter behind a backslash. -/
def numbered? (letter : CodePoint) : Option Nat :=
  if letter = 'x' then some 2
  else if letter = 'u' then some 4
  else if letter = 'U' then some 8
  else none

def octalValue? (point : CodePoint) : Option Nat :=
  if point.within '0' '7' then some (point.val - 48) else none

/-- The number that leading hexadecimal digits name, if there are enough of them. -/
def hexNumber? (count : Nat) (text : Text) : Option Nat :=
  let digits := (text.take count).filterMap CodePoint.hexValue?
  if digits.length = count then some (digits.foldl (fun number digit => number * 16 + digit) 0)
  else none

/-- Why what stands behind a backslash means nothing: too few digits behind a letter, a number
beyond all code points, or a name in place of a number.  The size is that of the escape as far as it
goes. -/
inductive EscapeFault
  | truncated (letter : CodePoint) (size : Nat)
  | beyond (size : Nat)
  | named (isOpen : Bool) (size : Nat)
  /-- Nothing stands behind the backslash. -/
  | empty
deriving DecidableEq, Repr

/-- What stands behind a backslash: its meaning, and the text behind it. -/
def escape : Text → Except EscapeFault (Text × Text)
  | [] => .error .empty
  | letter :: rest =>
      match lettered? letter, numbered? letter, octalValue? letter with
      | some meant, _, _ => .ok ([meant], rest)
      | none, some count, _ =>
          match hexNumber? count rest with
          | none =>
              let digits := (rest.take count).takeWhile fun digit => digit.hexValue?.isSome
              .error (.truncated letter (digits.length + 2))
          | some number =>
              if bound : number < 0x110000 then
                .ok ([(⟨number, bound⟩ : CodePoint)], rest.drop count)
              else .error (.beyond (count + 2))
      | none, none, some _ =>
          let digits :=
            ((letter :: rest).take 3).takeWhile fun digit => (octalValue? digit).isSome
          let number :=
            (digits.filterMap octalValue?).foldl (fun number digit => number * 8 + digit) 0
          .ok ([CodePoint.ofNat number], (letter :: rest).drop digits.length)
      | none, none, none =>
          if letter.val = 0x0A then .ok ([], rest) else .ok (['\\', letter], rest)

/-- The rest of a literal behind its opening quote: its value and the text behind the closing
quote. -/
def rest? : Nat → Text → Option (Text × Text)
  | 0, _ => none
  | _ + 1, [] => none
  | fuel + 1, point :: rest =>
      if point = '"' then some ([], rest)
      else if point.val = 0x0A || point.val = 0x0D then none
      else if point = '\\' then do
        let (meant, more) ← (escape rest).toOption
        let (tail, more) ← rest? fuel more
        some (meant ++ tail, more)
      else do
        let (tail, more) ← rest? fuel rest
        some (point :: tail, more)

/-- The literal at the front of a text and the text behind it. -/
def read? : Text → Option (Text × Text)
  | [] => none
  | point :: rest => if point = '"' then rest? (rest.length + 1) rest else none

/-- The value of a text that is one literal. -/
def value? (text : Text) : Option Text :=
  match read? text with
  | some (value, []) => some value
  | _ => none

end Literal

end EventForge
