import EventForge.Text.Utf8

/-!
# SHA-256

The digest of schema sources and of compiled schemas: the message is padded to whole blocks of
sixteen words, and every block is mixed into eight chaining words in sixty-four rounds.
-/

namespace EventForge

namespace Sha256

/-- The round constants. -/
def roundConstants : List UInt32 := [
  0x428a2f98, 0x71374491, 0xb5c0fbcf, 0xe9b5dba5, 0x3956c25b, 0x59f111f1, 0x923f82a4, 0xab1c5ed5,
  0xd807aa98, 0x12835b01, 0x243185be, 0x550c7dc3, 0x72be5d74, 0x80deb1fe, 0x9bdc06a7, 0xc19bf174,
  0xe49b69c1, 0xefbe4786, 0x0fc19dc6, 0x240ca1cc, 0x2de92c6f, 0x4a7484aa, 0x5cb0a9dc, 0x76f988da,
  0x983e5152, 0xa831c66d, 0xb00327c8, 0xbf597fc7, 0xc6e00bf3, 0xd5a79147, 0x06ca6351, 0x14292967,
  0x27b70a85, 0x2e1b2138, 0x4d2c6dfc, 0x53380d13, 0x650a7354, 0x766a0abb, 0x81c2c92e, 0x92722c85,
  0xa2bfe8a1, 0xa81a664b, 0xc24b8b70, 0xc76c51a3, 0xd192e819, 0xd6990624, 0xf40e3585, 0x106aa070,
  0x19a4c116, 0x1e376c08, 0x2748774c, 0x34b0bcb5, 0x391c0cb3, 0x4ed8aa4a, 0x5b9cca4f, 0x682e6ff3,
  0x748f82ee, 0x78a5636f, 0x84c87814, 0x8cc70208, 0x90befffa, 0xa4506ceb, 0xbef9a3f7, 0xc67178f2]

/-- Eight chaining words. -/
structure State where
  a : UInt32
  b : UInt32
  c : UInt32
  d : UInt32
  e : UInt32
  f : UInt32
  g : UInt32
  h : UInt32
deriving DecidableEq, Repr

/-- The chaining words before the first block. -/
def State.initial : State :=
  ⟨0x6a09e667, 0xbb67ae85, 0x3c6ef372, 0xa54ff53a,
    0x510e527f, 0x9b05688c, 0x1f83d9ab, 0x5be0cd19⟩

def rotateRight (word : UInt32) (count : UInt32) : UInt32 :=
  (word >>> count) ||| (word <<< (32 - count))

/-- The word that the last sixteen words of a schedule, most recent first, are followed by. -/
def nextWord (recent : Array UInt32) : UInt32 :=
  let back (distance : Nat) := recent.getD (recent.size - distance) 0
  let early := back 15
  let late := back 2
  let small := rotateRight early 7 ^^^ rotateRight early 18 ^^^ (early >>> 3)
  let large := rotateRight late 17 ^^^ rotateRight late 19 ^^^ (late >>> 10)
  back 16 + small + back 7 + large

/-- The sixty-four words of the schedule of a block. -/
def schedule (block : Array UInt32) : Nat → Array UInt32
  | 0 => block
  | count + 1 =>
      let words := schedule block count
      words.push (nextWord words)

/-- One round. -/
def State.round (state : State) (word constant : UInt32) : State :=
  let large := rotateRight state.e 6 ^^^ rotateRight state.e 11 ^^^ rotateRight state.e 25
  let choice := (state.e &&& state.f) ^^^ (~~~state.e &&& state.g)
  let first := state.h + large + choice + constant + word
  let small := rotateRight state.a 2 ^^^ rotateRight state.a 13 ^^^ rotateRight state.a 22
  let majority := (state.a &&& state.b) ^^^ (state.a &&& state.c) ^^^ (state.b &&& state.c)
  { a := first + small + majority
    b := state.a
    c := state.b
    d := state.c
    e := state.d + first
    f := state.e
    g := state.f
    h := state.g }

def State.add (first second : State) : State :=
  ⟨first.a + second.a, first.b + second.b, first.c + second.c, first.d + second.d,
    first.e + second.e, first.f + second.f, first.g + second.g, first.h + second.h⟩

/-- Mixes a block into the chaining words. -/
def compress (state : State) (block : Array UInt32) : State :=
  let words := (schedule block 48).toList
  let mixed := (words.zip roundConstants).foldl (fun state pair => state.round pair.1 pair.2) state
  state.add mixed

/-- The big-endian words of bytes; bytes that do not fill a word are left out. -/
def wordsOf : Bytes → List UInt32
  | first :: second :: third :: fourth :: rest =>
      ((first.toUInt32 <<< 24) ||| (second.toUInt32 <<< 16) ||| (third.toUInt32 <<< 8) |||
        fourth.toUInt32) :: wordsOf rest
  | _ => []

/-- The big-endian bytes of a number, `count` of them. -/
def bytesOfNat (count number : Nat) : Bytes :=
  (List.range count).reverse.map fun place => UInt8.ofNat (number / Nat.pow 256 place)

/-- The message with a one bit, zeros and its length in bits behind it. -/
def pad (message : Bytes) : Bytes :=
  let zeros := (119 - message.length % 64) % 64
  message ++ [0x80] ++ List.replicate zeros 0 ++ bytesOfNat 8 (8 * message.length)

/-- Mixes all blocks of sixteen words. -/
def absorb (state : State) (words : List UInt32) : Nat → State
  | 0 => state
  | count + 1 => absorb (compress state (words.take 16).toArray) (words.drop 16) count

def State.bytes (state : State) : Bytes :=
  [state.a, state.b, state.c, state.d, state.e, state.f, state.g, state.h].flatMap fun word =>
    bytesOfNat 4 word.toNat

/-- The digest of a message as thirty-two bytes. -/
def digest (message : Bytes) : Bytes :=
  let words := wordsOf (pad message)
  (absorb .initial words (words.length / 16)).bytes

/-- The digest of a message as sixty-four hexadecimal digits. -/
def hexDigest (message : Bytes) : Text :=
  (digest message).flatMap fun byte => Text.ofHex 2 byte.toNat

end Sha256

end EventForge
