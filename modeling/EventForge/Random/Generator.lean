import EventForge.Fault
import EventForge.Number.Binary64
import EventForge.Text.Quoted

/-!
# Random values and the clock

The clock and the random numbers from which the values of events are made.
-/

namespace EventForge

/-!
## Random words

The stream of 32-bit words that random values are drawn from is the Mersenne twister with a period
of 2^19937 - 1.  A seed fixes the stream; values below a bound are drawn by rejection, so that each
of them is equally likely.
-/

/-- A stream of random words: the current block and the number of its words already used. -/
structure RandomSource where
  block : Array UInt32
  used : Nat
deriving DecidableEq, Repr

namespace RandomSource

/-- The number of words in a block. -/
def blockSize : Nat := 624

/-- The words that follow a first word in the simplest way of filling a block. -/
def fillBlock (first : UInt32) (count : Nat) : Array UInt32 :=
  (List.range count).foldl
    (fun words place =>
      let last := words.getD (words.size - 1) 0
      words.push ((1812433253 : UInt32) * (last ^^^ (last >>> 30)) + UInt32.ofNat (place + 1)))
    #[first]

/-- A place of the block and of the key while a key is mixed into the block. -/
structure Mixing where
  words : Array UInt32
  place : Nat
  keyPlace : Nat

/-- Goes on to the next place; after the last one the last word is copied to the front. -/
def Mixing.advance (mixing : Mixing) : Mixing :=
  if blockSize ≤ mixing.place + 1 then
    { mixing with
      words := mixing.words.setIfInBounds 0 (mixing.words.getD (blockSize - 1) 0), place := 1 }
  else { mixing with place := mixing.place + 1 }

/-- The word at the current place mixed with the one before it. -/
def Mixing.blend (mixing : Mixing) (factor : UInt32) : UInt32 :=
  let before := mixing.words.getD (mixing.place - 1) 0
  mixing.words.getD mixing.place 0 ^^^ ((before ^^^ (before >>> 30)) * factor)

/-- Mixes one word of the key into the block. -/
def Mixing.addKey (key : Array UInt32) (mixing : Mixing) : Mixing :=
  let word := mixing.blend 1664525 + key.getD mixing.keyPlace 0 + UInt32.ofNat mixing.keyPlace
  Mixing.advance
    { mixing with
      words := mixing.words.setIfInBounds mixing.place word
      keyPlace := if key.size ≤ mixing.keyPlace + 1 then 0 else mixing.keyPlace + 1 }

/-- Mixes the place number into the block. -/
def Mixing.addPlace (mixing : Mixing) : Mixing :=
  let word := mixing.blend 1566083941 - UInt32.ofNat mixing.place
  Mixing.advance { mixing with words := mixing.words.setIfInBounds mixing.place word }

/-- The stream that a key starts. -/
def ofKey (key : Array UInt32) : RandomSource :=
  let start : Mixing := ⟨fillBlock 19650218 (blockSize - 1), 1, 0⟩
  let keyed := Nat.repeat (Mixing.addKey key) (max blockSize key.size) start
  let mixed := Nat.repeat Mixing.addPlace (blockSize - 1) keyed
  { block := mixed.words.setIfInBounds 0 0x80000000, used := blockSize }

/-- The words of a number in base 2^32, least significant first. -/
def keyWords (number : Nat) : List UInt32 :=
  if small : number < 0x100000000 then [UInt32.ofNat number]
  else UInt32.ofNat (number % 0x100000000) :: keyWords (number / 0x100000000)
termination_by number
decreasing_by omega

/-- The stream of a seed; the sign of the seed does not matter. -/
def ofSeed (seed : Int) : RandomSource := ofKey (keyWords seed.natAbs).toArray

/-- The word that replaces the one at a place when a new block is formed. -/
def twist (words : Array UInt32) (place : Nat) : UInt32 :=
  let joined :=
    (words.getD place 0 &&& 0x80000000) ||| (words.getD ((place + 1) % blockSize) 0 &&& 0x7fffffff)
  words.getD ((place + 397) % blockSize) 0 ^^^ (joined >>> 1) ^^^
    (if joined &&& 1 = 0 then 0 else 0x9908b0df)

/-- The block after the given one. -/
def nextBlock (block : Array UInt32) : Array UInt32 :=
  (List.range blockSize).foldl (fun words place => words.setIfInBounds place (twist words place))
    block

/-- The bits of a word spread over the whole word. -/
def temper (word : UInt32) : UInt32 :=
  let word := word ^^^ (word >>> 11)
  let word := word ^^^ ((word <<< 7) &&& 0x9d2c5680)
  let word := word ^^^ ((word <<< 15) &&& 0xefc60000)
  word ^^^ (word >>> 18)

/-- The next word of the stream. -/
def next (source : RandomSource) : UInt32 × RandomSource :=
  let source :=
    if blockSize ≤ source.used then { block := nextBlock source.block, used := 0 } else source
  (temper (source.block.getD source.used 0), { source with used := source.used + 1 })

/-- A number of `count` random bits: whole words from the least significant on, and the upper bits
of one more word. -/
def bits (source : RandomSource) (count : Nat) : Nat × RandomSource :=
  if count ≤ 32 then
    if count = 0 then (0, source)
    else
      let drawn := source.next
      (drawn.1.toNat / twoTo (32 - count), drawn.2)
  else
    let drawn := source.next
    let rest := bits drawn.2 (count - 32)
    (drawn.1.toNat + twoTo 32 * rest.1, rest.2)
termination_by count

/-- Draws numbers of `count` bits until one is below the bound. -/
def drawBelow (bound count : Nat) (source : RandomSource) : Nat → Nat × RandomSource
  | 0 => (0, source)
  | tries + 1 =>
      let drawn := source.bits count
      if drawn.1 < bound then drawn else drawBelow bound count drawn.2 tries

/-- A random number below a bound.  More than half of all draws are below it; a thousand failures in
a row do not happen. -/
def below (source : RandomSource) (bound : Nat) : Nat × RandomSource :=
  drawBelow bound (if bound = 0 then 0 else Nat.log2 bound + 1) source 1000

end RandomSource

/-!
## The wall clock

A clock counts nanoseconds since the epoch.  Its seconds are those of the double nearest to the
time, without their fraction; its milliseconds are rounded down.  A time beyond all doubles has no
seconds.
-/

structure Clock where
  nanoseconds : Int
deriving DecidableEq, Repr, Inhabited

namespace Clock

/-- The bits of the double nearest to the nanoseconds divided by a thousand millions; a time beyond
all doubles has none. -/
def timeBits? (clock : Clock) : Option Nat :=
  match Binary64.rounded (clock.nanoseconds < 0) clock.nanoseconds.natAbs 1 with
  | .finite negative significand exponent =>
      let exact := Binary64.ratio negative significand exponent
      some (Binary64.signedBits negative exact.1.natAbs (exact.2 * tenTo 9))
  | _ => none

/-- The time in seconds. -/
def time? (clock : Clock) : Option Float :=
  clock.timeBits?.map fun bits => Float.ofBits (UInt64.ofNat bits)

/-- Whole seconds, in the direction of zero. -/
def seconds? (clock : Clock) : Option Int := do
  match Binary64.ofBits (← clock.timeBits?) with
  | .finite negative significand exponent =>
      return Binary64.truncate negative significand exponent
  | _ => none

/-- Whole milliseconds, rounded down. -/
def milliseconds (clock : Clock) : Int := Int.fdiv clock.nanoseconds (tenTo 6)

end Clock

/-!
## Generators of values

Each field has a generator that makes its values from a random source and the wall clock.
-/

inductive Generator
  | integer
  | wideInteger
  | time
  | clock
deriving DecidableEq, Repr

namespace Generator

/-- The generators in the order of their names. -/
def all : List Generator := [.clock, .wideInteger, .integer, .time]

/-- The name of a generator in modules. -/
def name : Generator → Text
  | .integer => "random_int_value"
  | .wideInteger => "random_int64_value"
  | .time => "random_time_value"
  | .clock => "now_millis"

/-- Integers are below a million. -/
def integerBound : Nat := 1000000

/-- Wide integers are below ten to the sixteenth. -/
def wideBound : Nat := 10000000000000000

/-- Times lie at most this many seconds before the clock, and less than that behind it. -/
def jitter : Nat := 60

/-- The failure of a clock without seconds. -/
def clockFault : Fault := Fault.plain .overflow "int too large to convert to float"

/-- A draw that may fail, and the source after it. -/
abbrev Drawing := ExceptT Fault (StateM RandomSource)

/-- A number below a bound. -/
def draw (bound : Nat) : Drawing Nat := fun source =>
  let (drawn, source) := source.below bound
  (.ok drawn, source)

/-- A random time in seconds around a clock.  A clock without seconds leaves the source alone. -/
def randomTime (clock : Clock) : Drawing Int := do
  match clock.seconds? with
  | none => throw clockFault
  | some seconds => return seconds + (← draw (2 * jitter)) - jitter

/-- A value. -/
def run (clock : Clock) : Generator → Drawing Int
  | .integer => do return (← draw integerBound)
  | .wideInteger => do return (← draw wideBound)
  | .time => randomTime clock
  | .clock => return clock.milliseconds

/-- The generator with a name. -/
def ofName? (name : Text) : Option Generator := all.find? fun generator => generator.name == name

/-- The refusal of a name that no generator has. -/
def unknown (name : Text) : Fault :=
  Fault.ofValue (("Unknown generator '" : Text) ++ name ++ "'. Valid: " ++
    Text.bracketed (all.map fun generator => Quoted.ofText generator.name))

end Generator

end EventForge
