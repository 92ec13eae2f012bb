import EventForge.Json.Reader
import EventForge.Script.Instantiation

/-!
# JSON texts of scripts

Values are written as JSON, in the order of their entries or of the keys, and read back.
-/

namespace EventForge

namespace ScriptRun

/-- How JSON is written. -/
structure JsonForm where
  indent : Option Text := none
  sortsKeys : Bool := false
  asciiOnly : Bool := true
  itemSeparator : Text := ", "
  keySeparator : Text := ": "
  /-- A function for values that JSON does not have. -/
  standard : ScriptValue := .nothing
  skipsKeys : Bool := false

/-- A text in quotes. -/
def jsonQuoted (form : JsonForm) (content : Text) : Text :=
  if form.asciiOnly then Json.asciiString content else Json.plainString content

def jsonReal (number : Float) : Text :=
  if number.isNaN then "NaN"
  else if number.isInf then (if number < 0 then ("-Infinity" : Text) else "Infinity")
  else ShortestDecimal.text number

/-- The text of a key. -/
def jsonKey? (form : JsonForm) (key : ScriptValue) : ScriptRun (Option Text) := do
  match ← contentOf key with
  | .text content => return some content
  | .bool truth => return some (if truth then "true" else "false")
  | .nothing => return some "null"
  | .integer number => return some (Text.ofInt number)
  | .float number => return some (jsonReal number)
  | _ =>
      if form.skipsKeys then return none
      refuseType (("keys must be str, int, float, bool or None, not " : Text) ++ (← kindName key))

/-- Pieces between brackets. -/
def jsonBlock (form : JsonForm) (depth : Nat) (opening closing : Text) (pieces : List Text) :
    Text :=
  if pieces.isEmpty then opening ++ closing
  else
    match form.indent with
    | none => opening ++ Text.join form.itemSeparator pieces ++ closing
    | some indent =>
        let line (depth : Nat) : Text := ("\n" : Text) ++ (List.replicate depth indent).flatten
        opening ++ line (depth + 1) ++
          Text.join (form.itemSeparator ++ line (depth + 1)) pieces ++ line depth ++ closing

/-- The JSON of a value.  The fuel bounds how deep it is. -/
def jsonIn (form : JsonForm) : Nat → Nat → List ObjectPlace → ScriptValue → ScriptRun Text
  | 0, _, _, _ => refuseDepth " while encoding a JSON object"
  | fuel + 1, depth, around, value => do
      let content ← contentOf value
      let around ←
        match content with
        | .object place =>
            if around.contains place then refuseValue "Circular reference detected"
            pure (place :: around)
        | _ => pure around
      let entries (entries : List (ScriptValue × ScriptValue)) : ScriptRun Text := do
        let entries ←
          if form.sortsKeys then
            sortedBy (fun first second => isLess first.1 second.1) 64 entries
          else pure entries
        let pieces ← entries.filterMapM fun entry => do
          match ← jsonKey? form entry.1 with
          | none => return none
          | some key =>
              return some (jsonQuoted form key ++ form.keySeparator ++
                (← jsonIn form fuel (depth + 1) around entry.2))
        return jsonBlock form depth "\x7b" "\x7d" pieces
      let items (items : List ScriptValue) : ScriptRun Text := do
        return jsonBlock form depth "[" "]"
          (← items.mapM (jsonIn form fuel (depth + 1) around))
      match content with
      | .nothing => return "null"
      | .bool truth => return if truth then "true" else "false"
      | .integer number => integerText number
      | .float number => return jsonReal number
      | .text content => return jsonQuoted form content
      | .unknown => return "null"
      | .tuple members =>
          if ← isFault value then refuseKind value else items members
      | content =>
          match ← list? content, ← entries? content with
          | some members, _ => items members
          | none, some found => entries found.toList
          | none, none =>
              if form.standard == .nothing then refuseKind value
              else jsonIn form fuel depth around (← call form.standard [value])
where
  refuseKind (value : ScriptValue) : ScriptRun Text := do
    refuseType (("Object of type " : Text) ++ (← kindName value) ++ " is not JSON serializable")

/-- The form that arguments ask for. -/
def jsonForm (named : Fields ScriptValue) : ScriptRun JsonForm := do
  let found (name : String) : ScriptValue :=
    (named.get? (Text.ofString name)).getD .nothing
  let indent ← match found "indent" with
    | .nothing => pure none
    | .text content => pure (some content)
    | other => pure (some (List.replicate (← indexOf other).toNat (0x20 : CodePoint)))
  let separators ← match found "separators" with
    | .nothing => pure none
    | pair => pure (some (← itemsOf pair))
  let separator (index : Nat) (standard : Text) : Text :=
    match separators.bind (·[index]?) with
    | some (.text content) => content
    | _ => standard
  return {
    indent
    sortsKeys := ← isTrue (found "sort_keys")
    asciiOnly := ← isTrue ((named.get? "ensure_ascii").getD (.bool true))
    itemSeparator := separator 0 (if indent.isSome then ("," : Text) else ", ")
    keySeparator := separator 1 ": "
    standard := found "default"
    skipsKeys := ← isTrue (found "skipkeys") }

mutual

/-- The value of a JSON document. -/
def valueOfDocument : Nat → Document → ScriptRun ScriptValue
  | 0, _ => refuseDepth " while decoding a JSON object"
  | fuel + 1, document => do
      match document with
      | .null => return .nothing
      | .bool truth => return .bool truth
      | .integer number => return .integer number
      | .float number => return .float number
      | .text content => return .text content
      | .bytes content => return .bytes content
      | .list items => newList (← valuesOfDocuments fuel items)
      | .tuple items => return .tuple (← valuesOfDocuments fuel items)
      | .mapping entries =>
          let place ← keep (.mapping #[])
          putEntries place (← entriesOfDocuments fuel entries)
          return .object place
      | _ => return .unknown

def valuesOfDocuments : Nat → List Document → ScriptRun (List ScriptValue)
  | 0, _ => refuseDepth " while decoding a JSON object"
  | fuel + 1, documents => documents.mapM (valueOfDocument fuel)

def entriesOfDocuments : Nat → List (Document × Document) →
    ScriptRun (List (ScriptValue × ScriptValue))
  | 0, _ => refuseDepth " while decoding a JSON object"
  | fuel + 1, entries =>
      entries.mapM fun entry =>
        return (← valueOfDocument fuel entry.1, ← valueOfDocument fuel entry.2)

end

end ScriptRun

end EventForge
