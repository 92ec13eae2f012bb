import EventForge.Text.Basic

/-!
# JSON values and their text

A JSON value is written on one line or with one member a line; members come in the order of their
keys. Strings are written in ASCII, where a code point beyond the basic plane is two escapes, or
with every code point as it is that needs no escape.
-/

namespace EventForge

/-- A value that JSON can write. -/
inductive Json
  | null
  | bool (value : Bool)
  | integer (value : Int)
  | text (value : Text)
  | list (items : List Json)
  | object (members : List (Text × Json))
deriving Inhabited

namespace Json

/-- The escape of a code point by its number. -/
def numbered (number : Nat) : Text := ("\\u" : Text) ++ Text.ofHex 4 number

/-- The escape by a letter, for the code points that have one. -/
def lettered? (point : CodePoint) : Option Text :=
  if point = '"' then some "\\\""
  else if point = '\\' then some "\\\\"
  else if point.val = 0x0A then some "\\n"
  else if point.val = 0x0D then some "\\r"
  else if point.val = 0x09 then some "\\t"
  else if point.val = 0x0C then some "\\f"
  else if point.val = 0x08 then some "\\b"
  else none

/-- A code point inside a string in ASCII. -/
def asciiPoint (point : CodePoint) : Text :=
  match lettered? point with
  | some escape => escape
  | none =>
      if 0x20 ≤ point.val && point.val ≤ 0x7E then [point]
      else if point.val < 0x10000 then numbered point.val
      else
        numbered (0xD800 + (point.val - 0x10000) / 0x400) ++
          numbered (0xDC00 + (point.val - 0x10000) % 0x400)

/-- A code point inside a string that keeps all it can. -/
def plainPoint (point : CodePoint) : Text :=
  match lettered? point with
  | some escape => escape
  | none => if 0x20 ≤ point.val then [point] else numbered point.val

/-- A string in ASCII. -/
def asciiString (text : Text) : Text := ("\"" : Text) ++ text.flatMap asciiPoint ++ ("\"" : Text)

/-- A string that keeps all it can. -/
def plainString (text : Text) : Text := ("\"" : Text) ++ text.flatMap plainPoint ++ ("\"" : Text)

/-- Members in the order of their keys. -/
def sortMembers (members : List (Text × Json)) : List (Text × Json) :=
  members.mergeSort fun first second => Text.le first.1 second.1

mutual

/-- A value with its members, and those of all values in it, in the order of their keys. -/
def sorted : Json → Json
  | .list items => .list (sortedItems items)
  | .object members => .object (sortMembers (sortedMembers members))
  | other => other

def sortedItems : List Json → List Json
  | [] => []
  | item :: items => sorted item :: sortedItems items

def sortedMembers : List (Text × Json) → List (Text × Json)
  | [] => []
  | (key, value) :: members => (key, sorted value) :: sortedMembers members

end

mutual

/-- A value on one line without blanks. -/
def compact : Json → Text
  | .null => "null"
  | .bool value => if value then "true" else "false"
  | .integer value => Text.ofInt value
  | .text value => asciiString value
  | .list items => ("[" : Text) ++ Text.join "," (compactItems items) ++ ("]" : Text)
  | .object members =>
      ("\x7b" : Text) ++ Text.join "," (compactMembers members) ++ ("\x7d" : Text)

def compactItems : List Json → List Text
  | [] => []
  | item :: items => compact item :: compactItems items

def compactMembers : List (Text × Json) → List Text
  | [] => []
  | (key, value) :: members =>
      (asciiString key ++ (":" : Text) ++ compact value) :: compactMembers members

end

/-- A new line at a depth; each level is indented by two blanks. -/
def newLine (depth : Nat) : Text :=
  ("\n" : Text) ++ List.replicate (2 * depth) (0x20 : CodePoint)

/-- Lines between an opening and a closing bracket; nothing stands between the brackets if there are
no lines. -/
def enclosed (opening closing : Text) (depth : Nat) (lines : List Text) : Text :=
  if lines.isEmpty then opening ++ closing
  else
    opening ++ newLine (depth + 1) ++ Text.join (("," : Text) ++ newLine (depth + 1)) lines ++
      newLine depth ++ closing

mutual

/-- A value at a depth with one item or member a line. -/
def indented (depth : Nat) : Json → Text
  | .null => "null"
  | .bool value => if value then "true" else "false"
  | .integer value => Text.ofInt value
  | .text value => asciiString value
  | .list items => enclosed "[" "]" depth (indentedItems (depth + 1) items)
  | .object members => enclosed "\x7b" "\x7d" depth (indentedMembers (depth + 1) members)

def indentedItems (depth : Nat) : List Json → List Text
  | [] => []
  | item :: items => indented depth item :: indentedItems depth items

def indentedMembers (depth : Nat) : List (Text × Json) → List Text
  | [] => []
  | (key, value) :: members =>
      (asciiString key ++ (": " : Text) ++ indented depth value) :: indentedMembers depth members

end

end Json

end EventForge
