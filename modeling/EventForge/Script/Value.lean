import EventForge.Document.Basic
import EventForge.Number.Binary64

/-!
# Values of scripts

The values that a script computes with, and the tables that look them up by their hashes.
-/

namespace EventForge

/-!
## Values of scripts

A value that cannot change is kept as it is.  All else is an object: the value is the place where
the object is kept, so that two names for one object see the same changes.  Where the library says
nothing about a value, it is unknown, and so is everything that is computed from it.
-/

/-- Where an object of a script is kept. -/
abbrev ObjectPlace := Nat

inductive ScriptValue
  | nothing
  | bool (value : Bool)
  | integer (value : Int)
  | float (value : Float)
  | text (value : Text)
  | bytes (value : Bytes)
  | ellipsis
  /-- What an operation gives for values that it is not meant for. -/
  | unsupported
  | tuple (items : List ScriptValue)
  | range (start stop step : Int)
  | slice (start stop step : ScriptValue)
  /-- A kind of values that the library knows, by its full name. -/
  | kind (name : String)
  /-- A function of the library, by the module or kind that it belongs to and its name there. -/
  | native (group name : String)
  /-- A function that takes a value as its first argument. -/
  | bound (function owner : ScriptValue)
  | object (place : ObjectPlace)
  | unknown
deriving Inhabited, BEq, Repr

namespace ScriptValue

def ofString (value : String) : ScriptValue := .text (Text.ofString value)

def isUnknown : ScriptValue → Bool
  | .unknown => true
  | _ => false

/-- The name of the kind of a value that is no object. -/
def plainKind : ScriptValue → String
  | .nothing => "NoneType"
  | .bool _ => "bool"
  | .integer _ => "int"
  | .float _ => "float"
  | .text _ => "str"
  | .bytes _ => "bytes"
  | .ellipsis => "ellipsis"
  | .unsupported => "NotImplementedType"
  | .tuple _ => "tuple"
  | .range _ _ _ => "range"
  | .slice _ _ _ => "slice"
  | .kind _ => "type"
  | .native _ _ => "builtin_function_or_method"
  | .bound _ _ => "method"
  | .object _ | .unknown => "object"

/-- The number that a value is, if it is one. -/
def quantity? : ScriptValue → Option Quantity
  | .bool value => some (.whole (if value then 1 else 0))
  | .integer value => some (.whole value)
  | .float value => some (.real value)
  | _ => none

/-- The integer that a value is, if it is one. -/
def integer? : ScriptValue → Option Int
  | .bool value => some (if value then 1 else 0)
  | .integer value => some value
  | _ => none

end ScriptValue

/-!
## Hashes and their tables

Equal numbers have the same hash, whatever their kinds are, and the hash of a tuple comes from those of
its members.  The members of a set stand in the order of a table in which each has the first free place
that its hash leads to.  Texts have no hashes that are known: they differ from run to run.
-/

namespace ScriptHash

/-- The numbers of 64 bits from zero on. -/
def wordCount : Nat := twoTo 64

/-- A whole number as a word. -/
def word (number : Int) : Nat := (number % wordCount).toNat

/-- The signed number that a word stands for; minus one stands for no hash. -/
def signed (word minusOne : Nat) : Int :=
  if word = wordCount - 1 then minusOne
  else if word < twoTo 63 then word
  else (word : Int) - wordCount

/-- The prime modulus of the hashes of numbers. -/
def modulus : Nat := twoTo 61 - 1

def withSign (negative : Bool) (rest : Nat) : Int :=
  let number : Int := if negative then -(rest : Int) else rest
  if number = -1 then -2 else number

def ofInteger (number : Int) : Int := withSign (number < 0) (number.natAbs % modulus)

/-- The hash of a double is that of the ratio that it is, where a half has an inverse. -/
def ofFloat? (number : Float) : Option Int :=
  match Binary64.ofFloat number with
  | .nan => none
  | .infinite negative => some (if negative then -314159 else 314159)
  | .finite negative significand exponent =>
      let shift := (exponent % 61).toNat
      some (withSign negative (significand * twoTo shift % modulus))

/-- Some bits of a word from the lower to the upper end, and the others behind them. -/
def rotated (word count : Nat) : Nat :=
  (word * twoTo count % wordCount) + word / twoTo (64 - count)

/-- The hash of a tuple of values with some hashes. -/
def ofHashes (hashes : List Int) : Int :=
  let last : Nat := 2870177450012600261
  let mixed := hashes.foldl (fun found hash =>
    rotated ((found + word hash * 14029467366897019727) % wordCount) 31 *
      11400714785074694791 % wordCount) last
  signed ((mixed + (hashes.length ^^^ (last ^^^ 3527539))) % wordCount) 1546275796

def ofValues? (hash? : ScriptValue → Option Int) : List ScriptValue → Option (List Int)
  | [] => some []
  | value :: values => do return (← hash? value) :: (← ofValues? hash? values)

/-- The hash of a value, if it is known.  The fuel bounds how deep tuples are inside each other. -/
def ofValueIn? : Nat → ScriptValue → Option Int
  | 0, _ => none
  | fuel + 1, value =>
      match value with
      | .float number => ofFloat? number
      | .tuple items => (ofValues? (ofValueIn? fuel) items).map ofHashes
      | .text [] => some 0
      | value => value.integer?.map ofInteger

def ofValue? (value : ScriptValue) : Option Int := ofValueIn? 100 value

/-- A word with its bits mixed, so that the order of members does not matter when they are put
together. -/
def shuffled (word : Nat) : Nat :=
  (word ^^^ 89869747 ^^^ (word * 65536 % wordCount)) * 3644798167 % wordCount

/-- The hash of a set that cannot be changed, whose members have some hashes in a table of some
size. -/
def ofSet (hashes : List Int) (size : Nat) : Int :=
  let members := hashes.foldl (fun found hash => found ^^^ shuffled (word hash)) 0
  let even := if (size - hashes.length) % 2 = 1 then members ^^^ shuffled 0 else members
  let counted := even ^^^ ((hashes.length + 1) * 1927868237 % wordCount)
  let mixed := counted ^^^ (counted / twoTo 11) ^^^ (counted / twoTo 25)
  signed ((mixed * 69069 + 907133923) % wordCount) 590923713

/-- The places that are tried one after the other before the next jump. -/
def neighbours : Nat := 9

/-- The first free place that a hash leads to in a table whose size is a power of two.  The fuel bounds the
number of jumps. -/
def freePlace (slots : Array (Option Nat)) : Nat → Nat → Nat → Nat
  | 0, place, _ => place
  | fuel + 1, place, rest =>
      let mask := slots.size - 1
      let last := if place + neighbours ≤ mask then place + neighbours else place
      let free := (List.range' place (last - place + 1)).find? fun place =>
        (slots.getD place none).isNone
      match free with
      | some place => place
      | none =>
          let rest := rest / 32
          freePlace slots fuel ((place * 5 + 1 + rest) % slots.size) rest

/-- Puts a member with a hash into a table. -/
def inserted (slots : Array (Option Nat)) (member hash : Nat) : Array (Option Nat) :=
  slots.setIfInBounds (freePlace slots 1000 (hash % slots.size) hash) (some member)

/-- The smallest size of a table above a number.  The fuel bounds it. -/
def sizeAbove (least : Nat) : Nat → Nat → Nat
  | 0, size => size
  | fuel + 1, size => if size ≤ least then sizeAbove least fuel (2 * size) else size

/-- A table that grows when three fifths of it are full. -/
def grown (hashes : Array Nat) (slots : Array (Option Nat)) (used : Nat) : Array (Option Nat) :=
  if used * 5 < (slots.size - 1) * 3 then slots
  else
    let size := sizeAbove (if 50000 < used then 2 * used else 4 * used) 64 8
    slots.foldl (fun found slot =>
      match slot with
      | some member => inserted found member (hashes.getD member 0)
      | none => found) (Array.replicate size none)

/-- The table of members with some hashes that are put into it one after the other. -/
def table (hashes : Array Nat) : Array (Option Nat) :=
  (List.range hashes.size).foldl (fun slots member =>
    grown hashes (inserted slots member (hashes.getD member 0)) (member + 1))
    (Array.replicate 8 none)

/-- Values in the order of the table of their hashes, if these are known. -/
def ordered (values : Array ScriptValue) : Array ScriptValue :=
  match ofValues? ofValue? values.toList with
  | none => values
  | some hashes =>
      let slots := table (hashes.map word).toArray
      slots.filterMap fun slot => slot.bind fun member => values[member]?

/-- The hash of a set that cannot be changed, if those of its members are known. -/
def ofMembers? (values : List ScriptValue) : Option Int := do
  let hashes ← ofValues? ofValue? values
  return ofSet hashes (table (hashes.map word).toArray).size

end ScriptHash

end EventForge
