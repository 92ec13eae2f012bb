import EventForge.Text.Basic

/-!
# UTF-8

Text is written to files and hashed as UTF-8.  Surrogates have no encoding.  A sequence of bytes
that encodes no text is refused at the first place where it goes wrong, and the refusal names the
bytes and the reason.
-/

namespace EventForge

/-- A sequence of bytes. -/
abbrev Bytes := List UInt8

/-- Why bytes are no UTF-8. -/
inductive Utf8Fault
  | invalidStart
  | invalidContinuation
  | unexpectedEnd
deriving DecidableEq, Repr

/-- The place and the reason at which reading UTF-8 stopped. -/
structure Utf8DecodeError where
  position : Nat
  length : Nat
  byte : UInt8
  fault : Utf8Fault
deriving DecidableEq, Repr

/-- The stretch of surrogates at which writing UTF-8 stopped. -/
structure Utf8EncodeError where
  position : Nat
  length : Nat
  point : CodePoint
deriving DecidableEq, Repr

namespace Utf8Fault

def message : Utf8Fault → Text
  | .invalidStart => "invalid start byte"
  | .invalidContinuation => "invalid continuation byte"
  | .unexpectedEnd => "unexpected end of data"

end Utf8Fault

namespace Utf8DecodeError

def message (error : Utf8DecodeError) : Text :=
  "'utf-8' codec can't decode " ++
    (if error.length = 1 then
      "byte 0x" ++ Text.ofHex 2 error.byte.toNat ++ " in position " ++ Text.ofNat error.position
    else
      "bytes in position " ++ Text.ofNat error.position ++ "-" ++
        Text.ofNat (error.position + error.length - 1)) ++
    ": " ++ error.fault.message

end Utf8DecodeError

namespace Utf8EncodeError

def message (error : Utf8EncodeError) : Text :=
  "'utf-8' codec can't encode " ++
    (if error.length = 1 then
      "character '\\u" ++ Text.ofHex 4 error.point.val ++ "' in position " ++
        Text.ofNat error.position
    else
      "characters in position " ++ Text.ofNat error.position ++ "-" ++
        Text.ofNat (error.position + error.length - 1)) ++
    ": surrogates not allowed"

end Utf8EncodeError

namespace Utf8

/-- The bytes of a code point. -/
def encodePoint (point : CodePoint) : Bytes :=
  let number := point.val
  if number < 0x80 then [UInt8.ofNat number]
  else if number < 0x800 then
    [UInt8.ofNat (0xC0 + number / 0x40), UInt8.ofNat (0x80 + number % 0x40)]
  else if number < 0x10000 then
    [UInt8.ofNat (0xE0 + number / 0x1000), UInt8.ofNat (0x80 + number / 0x40 % 0x40),
      UInt8.ofNat (0x80 + number % 0x40)]
  else
    [UInt8.ofNat (0xF0 + number / 0x40000), UInt8.ofNat (0x80 + number / 0x1000 % 0x40),
      UInt8.ofNat (0x80 + number / 0x40 % 0x40), UInt8.ofNat (0x80 + number % 0x40)]

/-- The bytes of a text, whether it can be written or not. -/
def encodeAll (text : Text) : Bytes := text.flatMap encodePoint

/-- The bytes of a text without surrogates. -/
def encode (text : Text) : Except Utf8EncodeError Bytes :=
  match text.dropWhile (fun point => !point.isSurrogate) with
  | [] => .ok (encodeAll text)
  | point :: rest =>
      .error
        { position := (text.takeWhile fun point => !point.isSurrogate).length
          length := 1 + (rest.takeWhile CodePoint.isSurrogate).length
          point }

/-- Whether a byte can stand behind the first byte of an encoded code point. -/
def isContinuation (byte : UInt8) : Bool := 0x80 ≤ byte && byte < 0xC0

/-- What the bytes from a first byte on begin with: a code point and its length, or a fault and the
number of bytes it covers. -/
def decodeFirst (first : UInt8) (rest : Bytes) : Except (Utf8Fault × Nat) (CodePoint × Nat) :=
  let low (byte : UInt8) := byte.toNat % 0x40
  if first < 0x80 then .ok (.ofNat first.toNat, 1)
  else if first < 0xC2 then .error (.invalidStart, 1)
  else if first < 0xE0 then
    match rest with
    | [] => .error (.unexpectedEnd, 1)
    | second :: _ =>
        if isContinuation second then
          .ok (.ofNat ((first.toNat - 0xC0) * 0x40 + low second), 2)
        else .error (.invalidContinuation, 1)
  else if first < 0xF0 then
    match rest with
    | [] => .error (.unexpectedEnd, 1)
    | second :: rest =>
        if !isContinuation second || (if second < 0xA0 then first == 0xE0 else first == 0xED) then
          .error (.invalidContinuation, 1)
        else
          match rest with
          | [] => .error (.unexpectedEnd, 2)
          | third :: _ =>
              if isContinuation third then
                .ok (.ofNat ((first.toNat - 0xE0) * 0x1000 + low second * 0x40 + low third), 3)
              else .error (.invalidContinuation, 2)
  else if first < 0xF5 then
    match rest with
    | [] => .error (.unexpectedEnd, 1)
    | second :: rest =>
        if !isContinuation second || (if second < 0x90 then first == 0xF0 else first == 0xF4) then
          .error (.invalidContinuation, 1)
        else
          match rest with
          | [] => .error (.unexpectedEnd, 2)
          | third :: rest =>
              if !isContinuation third then .error (.invalidContinuation, 2)
              else
                match rest with
                | [] => .error (.unexpectedEnd, 3)
                | fourth :: _ =>
                    if isContinuation fourth then
                      .ok (.ofNat ((first.toNat - 0xF0) * 0x40000 + low second * 0x1000 +
                        low third * 0x40 + low fourth), 4)
                    else .error (.invalidContinuation, 3)
  else .error (.invalidStart, 1)

/-- The text encoded by the bytes from a position on; `pending` bytes belong to the code point that
was read last. -/
def decodeFrom (position pending : Nat) : Bytes → Except Utf8DecodeError Text
  | [] => .ok []
  | byte :: rest =>
      match pending with
      | pending + 1 => decodeFrom (position + 1) pending rest
      | 0 =>
          match decodeFirst byte rest with
          | .ok (point, length) => do
              let text ← decodeFrom (position + 1) (length - 1) rest
              return point :: text
          | .error (fault, length) => .error { position, length, byte, fault }

/-- The text encoded by a sequence of bytes. -/
def decode (bytes : Bytes) : Except Utf8DecodeError Text := decodeFrom 0 0 bytes

end Utf8

end EventForge
