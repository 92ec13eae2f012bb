import EventForge.Sql.Fault
import EventForge.Sql.JsonNode

/-!
# Functions of JSON

A function reads JSON from the text of its first value, and finds or changes what paths lead to.  A
text that another of these functions made counts as JSON where a value is put into an array or an
object; every other text is put there as a string.
-/

namespace EventForge

/-- A value that a function takes, and whether it is known to be JSON. -/
structure JsonArgument where
  cell : Cell
  isJson : Bool := false

namespace JsonFunction

/-- The text of a cell up to a NUL. -/
def textOf? (cell : Cell) : Option Text :=
  cell.toText?.map fun text => text.takeWhile fun point => point.val ≠ 0

/-- The refusal of a text that is no JSON. -/
def malformed : SqlRefusal := .other "malformed JSON"

/-- The refusal of a path from a part of it on. -/
def brokenPath (near : Text) : SqlRefusal :=
  let doubled : Text := near.flatMap fun point : CodePoint =>
    if point = '\'' then [point, point] else [point]
  .other (("JSON path error near '" : Text) ++ doubled ++ "'")

/-- What is found in JSON, in which a path may be broken. -/
def onPath {Found : Type} (found : Except Text Found) : Except SqlRefusal Found :=
  found.mapError brokenPath

/-- The JSON that a cell is; `none` if it is missing. -/
def read (cell : Cell) : Except SqlRefusal (Option JsonNode) :=
  match textOf? cell with
  | none => .ok none
  | some text =>
      match JsonNode.read text with
      | some value => .ok (some value)
      | none => .error malformed

/-- The JSON for a value that is put somewhere. -/
def nodeOf (argument : JsonArgument) : Except SqlRefusal JsonNode :=
  match argument.cell with
  | .null => .ok .null
  | .integer value => .ok (.number (Text.ofInt value) false)
  | .real value => .ok (.number (Decimal.text value) true)
  | .text value =>
      if argument.isJson then .ok ((JsonNode.read value).getD .null)
      else .ok (.text (JsonNode.escaped value))
  | .blob _ => .error (.other "JSON cannot hold BLOB values")

/-- An object with labels and values that take turns. -/
def objectOf : List JsonArgument → Except SqlRefusal (List (Text × JsonNode))
  | label :: value :: rest => do
      match label.cell with
      | .text written =>
          let node ← nodeOf value
          return (JsonNode.escaped written, node) :: (← objectOf rest)
      | _ => throw (.other "json_object() labels must be TEXT")
  | _ => .ok []

/-- A member whose label is the text of a value. -/
def memberOf (label value : JsonArgument) : Except SqlRefusal (Text × JsonNode) := do
  return (JsonNode.escaped ((textOf? label.cell).getD []), ← nodeOf value)

/-- An object with the texts of values as labels. -/
def groupOf : List JsonArgument → Except SqlRefusal (List (Text × JsonNode))
  | label :: value :: rest => do return (← memberOf label value) :: (← groupOf rest)
  | _ => .ok []

/-- The place that a path leads to. -/
def locate (value : JsonNode) (path : Text) : Except SqlRefusal (Option JsonNode.Place) :=
  onPath (value.locatePath path)

/-- A path as it may be written behind an arrow: a position, or a label without its mark. -/
def arrowPath (path : Text) : Text :=
  match path with
  | [] => "$."
  | point :: _ =>
      if point = '$' then path
      else if point.isAsciiDigit then ("$[" : Text) ++ path ++ "]"
      else if point = '[' then ("$" : Text) ++ path
      else ("$." : Text) ++ path

/-- What stands behind an arrow in JSON: as JSON, or as a value. -/
def arrow (asJson : Bool) (first second : Cell) : Except SqlRefusal Cell := do
  match ← read first, textOf? second with
  | some value, some path =>
      match ← locate value (arrowPath path) with
      | some place => return if asJson then .text place.value.render else place.value.toCell
      | none => return .null
  | _, _ => return .null

/-- The values that paths lead to, in an array. -/
def extractAll (value : JsonNode) (paths : List JsonArgument) : Except SqlRefusal Cell := do
  let found ← paths.mapM fun path => do
    match textOf? path.cell with
    | none => return JsonNode.null
    | some path => return ((← locate value path).map (·.value)).getD .null
  return .text (JsonNode.array found).render

/-- A value with others put where paths lead; the value itself may be replaced by a cell. -/
def change (replaces adds : Bool) (value : JsonNode ⊕ Cell) :
    List JsonArgument → Except SqlRefusal (JsonNode ⊕ Cell)
  | path :: new :: rest => do
      match value, textOf? path.cell with
      | .inl node, some path =>
          match path.dropLead? "$" with
          | none => throw (brokenPath path)
          | some [] =>
              change replaces adds (if replaces then .inr new.cell else value) rest
          | some steps =>
              let placed ← nodeOf new
              let changed ← onPath
                (JsonNode.put placed replaces adds (steps.length + 1) node steps)
              change replaces adds (.inl (changed.getD node)) rest
      | _, _ => change replaces adds value rest
  | _ => .ok value

/-- The cell of what a change gives. -/
def changed (found : JsonNode ⊕ Cell) : Cell :=
  match found with
  | .inl node => .text node.render
  | .inr cell => cell

/-- A value without those that paths lead to. -/
def removeAll (value : JsonNode) : List JsonArgument → Except SqlRefusal Cell
  | [] => .ok (.text value.render)
  | path :: paths => do
      match textOf? path.cell with
      | none => return .null
      | some path =>
          match path.dropLead? "$" with
          | none => throw (brokenPath path)
          | some steps =>
              match ← onPath (value.remove (steps.length + 1) steps) with
              | some left => removeAll left paths
              | none => return .null

/-- A function of the place that a path leads to, or of the whole value. -/
def atPlace (value : Cell) (path : Option JsonArgument) (function : JsonNode → Cell) :
    Except SqlRefusal Cell := do
  match ← read value, path with
  | none, _ => return .null
  | some node, none => return function node
  | some node, some path =>
      match textOf? path.cell with
      | none => return .null
      | some path => return ((← locate node path).map fun place => function place.value).getD .null

/-- How many items an array has; zero for other values. -/
def lengthOf : JsonNode → Cell
  | .array items => .integer items.length
  | _ => .integer 0

/-- The functions, with how many values each takes. -/
def arities : List (Text × (Nat → Bool)) := [
  ("json", (· = 1)), ("json_array", fun _ => true), ("json_array_length", fun n => n = 1 || n = 2),
  ("json_extract", fun _ => true), ("json_insert", fun _ => true), ("json_object", fun _ => true),
  ("json_patch", (· = 2)), ("json_quote", (· = 1)), ("json_remove", fun _ => true),
  ("json_replace", fun _ => true), ("json_set", fun _ => true),
  ("json_type", fun n => n = 1 || n = 2), ("json_valid", (· = 1))]

/-- All of these functions. -/
def names : List Text := arities.map (·.1)

/-- Whether a function takes so many values. -/
def takes (name : Text) (count : Nat) : Bool :=
  arities.any fun entry => entry.1 = name && entry.2 count

/-- Whether a function gives JSON. -/
def gives (name : Text) : Bool :=
  (names.contains name || Text.startsWith name "json_group_") &&
    !(([ "json_array_length", "json_extract", "json_type", "json_valid" ] : List Text).contains name)

/-- Whether a call of a function gave JSON: values that were found are, if they hold others. -/
def gave (name : Text) (cell : Cell) : Bool :=
  gives name ||
    (name = ("json_extract" : Text) &&
      match cell with
      | .text (first :: _) => first = CodePoint.ofChar '[' || first.val = 0x7B
      | _ => false)

/-- The refusal of a wrong number of values. -/
def unevenCount (name : Text) : SqlRefusal := .other (name ++ "() needs an odd number of arguments")

/-- The value of a function. -/
def value (name : Text) (arguments : List JsonArgument) : Except SqlRefusal Cell := do
  match name.toString, arguments with
  | "json", [value] => return ((← read value.cell).map fun node => Cell.text node.render).getD .null
  | "json_array", items => return .text (JsonNode.array (← items.mapM nodeOf)).render
  | "json_array_length", value :: path => atPlace value.cell path.head? lengthOf
  | "json_extract", value :: path :: paths =>
      match ← read value.cell with
      | none => return .null
      | some node =>
          if paths.isEmpty then
            atPlace value.cell (some path) JsonNode.toCell
          else extractAll node (path :: paths)
  | "json_insert", value :: changes =>
      if changes.length % 2 = 1 then throw (unevenCount name)
      match ← read value.cell with
      | none => return .null
      | some node => return changed (← change false true (.inl node) changes)
  | "json_object", members =>
      if members.length % 2 = 1 then
        throw (.other "json_object() requires an even number of arguments")
      let found ← objectOf members
      return .text (JsonNode.object (found.map (·.1)) (found.map (·.2))).render
  | "json_patch", [value, patch] =>
      match ← read value.cell, ← read patch.cell with
      | some node, some patch => return .text (node.patched (patch.size + 1) patch).render
      | _, _ => return .null
  | "json_quote", [value] => return .text (← nodeOf value).render
  | "json_remove", value :: paths =>
      match ← read value.cell with
      | none => return .null
      | some node => removeAll node paths
  | "json_replace", value :: changes =>
      if changes.length % 2 = 1 then throw (unevenCount name)
      match ← read value.cell with
      | none => return .null
      | some node => return changed (← change true false (.inl node) changes)
  | "json_set", value :: changes =>
      if changes.length % 2 = 1 then throw (unevenCount name)
      match ← read value.cell with
      | none => return .null
      | some node => return changed (← change true true (.inl node) changes)
  | "json_type", value :: path => atPlace value.cell path.head? fun node => .text node.kind
  | "json_valid", [value] =>
      match textOf? value.cell with
      | none => return .null
      | some text => return .integer (if (JsonNode.read text).isSome then 1 else 0)
  | "json_group_array", items => return .text (JsonNode.array (← items.mapM nodeOf)).render
  | "json_group_object", members =>
      let found ← groupOf members
      return .text (JsonNode.object (found.map (·.1)) (found.map (·.2))).render
  | _, _ => return .null

/-! ### Rows -/

/-- A label as a step of a path. -/
def labelStep (label : Text) : Text :=
  let isPlain : Bool := label.head?.any CodePoint.isAsciiLetter &&
    label.all CodePoint.isAsciiAlphanumeric
  if isPlain then ("." : Text) ++ label else (".\"" : Text) ++ label ++ "\""

/-- A position as a step of a path. -/
def positionStep (position : Nat) : Text := ("[" : Text) ++ Text.ofNat position ++ "]"

/-- The key of a member or an item. -/
def keyCell (label : Option Text) (position : Nat) : Cell :=
  match label with
  | some label => (JsonNode.text label).toCell
  | none => .integer position

/-- The row of a value. -/
def row (value : JsonNode) (key : Cell) (index : Nat) (parent : Option Nat) (fullKey path : Text) :
    List Cell :=
  [key, value.toCell, .text value.kind, if value.isContainer then .null else value.toCell,
    .integer index, (parent.map fun parent => Cell.integer parent).getD .null, .text fullKey,
    .text path]

/-- The members of a value with their labels and positions, and how many values and labels stand in
front of each. -/
def members (index : Nat) : JsonNode → List (JsonNode × Option Text × Nat × Nat)
  | .array items =>
      items.zipIdx.map fun entry =>
        let before := ((items.take entry.2).map JsonNode.size).foldl (· + ·) 0
        (entry.1, none, entry.2, index + 1 + before)
  | .object labels values =>
      (labels.zip values).zipIdx.map fun entry =>
        let before := ((values.take entry.2).map JsonNode.size).foldl (· + ·) 0
        (entry.1.2, some entry.1.1, entry.2, index + 2 + entry.2 + before)
  | _ => []

/-- The step to a member. -/
def memberStep (label : Option Text) (position : Nat) : Text :=
  match label with
  | some label => labelStep label
  | none => positionStep position

/-- The rows of the members of a value, or of the value itself if it has none. -/
def eachRows (root : Text) (place : JsonNode.Place) : List (List Cell) :=
  if place.value.isContainer then
    (members place.index place.value).map fun (value, label, position, index) =>
      row value (keyCell label position) index none (root ++ memberStep label position) root
  else [row place.value .null place.index none root root]

/-- The rows of a value and of all values in it. -/
def treeRows : Nat → JsonNode → Cell → Nat → Option Nat → Text → Text → List (List Cell)
  | 0, _, _, _, _, _, _ => []
  | fuel + 1, value, key, index, parent, fullKey, path =>
      row value key index parent fullKey path ::
        (members index value).flatMap fun (inner, label, position, innerIndex) =>
          treeRows fuel inner (keyCell label position) innerIndex (some index)
            (fullKey ++ memberStep label position) fullKey

/-- The rows that a text and a path stand for: those of the members of a value, or of all values in
it. -/
def rows (isTree : Bool) (cells : List Cell) : Except SqlRefusal (List (List Cell)) := do
  match textOf? (cells.headD .null) with
  | none => return []
  | some text =>
      match JsonNode.read text with
      | none => throw malformed
      | some value =>
          let root ← match cells[1]? with
            | none => pure (some ("$" : Text))
            | some cell => pure (textOf? cell)
          match root with
          | none => return []
          | some root =>
              match ← locate value root with
              | none => return []
              | some place =>
                  if !isTree then return eachRows root place
                  else
                    let key : Cell :=
                      match place.holder with
                      | some (_, some label) =>
                          if place.value.isContainer then (JsonNode.text label).toCell else .null
                      | _ => .null
                    let path : Text :=
                      match place.holder with
                      | some (_, some label) => root.take (root.length - (labelStep label).length)
                      | some (_, none) =>
                          (root.reverse.dropWhile fun point =>
                            point ≠ CodePoint.ofChar '[').reverse.dropLast
                      | none => "$"
                    return treeRows (value.size + 1) place.value key place.index none root path

end JsonFunction

end EventForge
