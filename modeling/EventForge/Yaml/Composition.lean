import EventForge.Yaml.Lexer
import EventForge.Yaml.Scalar

/-!
# From YAML tokens to a graph

The nodes of a document are read in their order, each behind its anchor and tag.  An anchor is known
from the place on where its node begins.  Tokens are asked for one by one, so a fault behind the
place where reading stops is not met.
-/

namespace EventForge

/-!
## Graphs of YAML nodes

A document is a graph of scalars, lists and maps, each with a tag.  An alias stands for the node
that carries its anchor, so a node can stand in many places, and a list or map can contain itself.
-/

namespace Yaml

/-- The place of a node in its graph. -/
abbrev NodeId := Nat

inductive NodeBody
  | scalar (content : Text)
  | list (items : List NodeId)
  | map (entries : List (NodeId × NodeId))
deriving Inhabited

structure Node where
  tag : Tag
  body : NodeBody

instance : Inhabited Node := ⟨⟨.null, .scalar []⟩⟩

/-- The nodes of a graph by their places. -/
abbrev Nodes := Array Node

namespace Nodes

def node (nodes : Nodes) (id : NodeId) : Node := nodes.getD id default

def tag (nodes : Nodes) (id : NodeId) : Tag := (nodes.node id).tag

def body (nodes : Nodes) (id : NodeId) : NodeBody := (nodes.node id).body

def setTag (nodes : Nodes) (id : NodeId) (tag : Tag) : Nodes :=
  nodes.modify id fun node => { node with tag }

def setBody (nodes : Nodes) (id : NodeId) (body : NodeBody) : Nodes :=
  nodes.modify id fun node => { node with body }

/-- The entries of a map; other nodes have none. -/
def entries (nodes : Nodes) (id : NodeId) : List (NodeId × NodeId) :=
  match nodes.body id with
  | .map entries => entries
  | _ => []

/-- The number of entries of all maps together. -/
def entryCount (nodes : Nodes) : Nat :=
  nodes.foldl (fun count node =>
    match node.body with
    | .map entries => count + entries.length
    | _ => count) 0

end Nodes

/-- The nodes of a document, the one that it consists of, and whether some node contains itself. -/
structure Graph where
  nodes : Nodes
  root : NodeId
  cyclic : Bool

/-- The tag of a scalar without quotes and without a tag of its own.  One line end behind it does
not matter. -/
def plainTag (content : Text) : Tag :=
  let text :=
    if content.getLast? = some CodePoint.lineFeed then content.dropLast else content
  if Form.isTruth text then .truth
  else if Form.isDecimal text then .decimal
  else if Form.isInteger text then .integer
  else if text = ("<<" : Text) then .merge
  else if Form.isNull text && (content.isEmpty || !text.isEmpty) then .null
  else if MomentParts.isPlain text then .moment
  else if text = ("=" : Text) then .value
  else if text = ("!" : Text) || text = ("&" : Text) || text = ("*" : Text) then .other
  else .string

end Yaml

/-!
## Merge keys

A map takes over the entries of the maps behind its merge keys, in front of its own.  What was taken
over stays with the map, and the merge key is gone.  A default key in a map that is looked through
becomes an ordinary key, wherever else its node stands.
-/

namespace Yaml

namespace Nodes

/-- What looking through the entries of a map has found so far. -/
structure Merging where
  nodes : Nodes
  /-- The entries taken over. -/
  merged : List (NodeId × NodeId)
  /-- The own entries that were looked at. -/
  kept : List (NodeId × NodeId)

/-- The entries that a merge key takes over when `merge` merges a map: those of a map, or of the
maps in a list, the last map first. -/
def takenOver (merge : NodeId → Nodes → Except YamlFault Nodes) (nodes : Nodes) (value : NodeId) :
    Except YamlFault (Nodes × List (NodeId × NodeId)) := do
  match nodes.body value with
  | .map _ =>
      let nodes ← merge value nodes
      return (nodes, nodes.entries value)
  | .list items =>
      items.foldlM (fun found item => do
        match found.1.body item with
        | .map _ =>
            let nodes ← merge item found.1
            return (nodes, nodes.entries item ++ found.2)
        | _ => malformed) (nodes, [])
  | .scalar _ => malformed

/-- Looks through the entries of a map from some of them on.  A map that is merged into itself
through others has been looked through when they are done. -/
def mergeFrom (merge : NodeId → Nodes → Except YamlFault Nodes) (id : NodeId) :
    Merging → List (NodeId × NodeId) → Except YamlFault Merging
  | state, [] => .ok state
  | state, (key, value) :: rest => do
      match state.nodes.tag key with
      | .merge =>
          let nodes := state.nodes.setBody id (.map (state.kept ++ rest))
          let (nodes, found) ← takenOver merge nodes value
          let merged := state.merged ++ found
          let own := nodes.entries id
          if own = state.kept ++ rest then mergeFrom merge id { state with nodes, merged } rest
          else return { nodes, merged, kept := own }
      | .value =>
          mergeFrom merge id
            { state with
              nodes := state.nodes.setTag key .string, kept := state.kept ++ [(key, value)] } rest
      | _ => mergeFrom merge id { state with kept := state.kept ++ [(key, value)] } rest

/-- Takes over what the merge keys of a map name. -/
def merge : Nat → NodeId → Nodes → Except YamlFault Nodes
  | 0, _, _ => malformed
  | fuel + 1, id, nodes => do
      let state ← mergeFrom (merge fuel) id ⟨nodes, [], []⟩ (nodes.entries id)
      if state.merged.isEmpty then return state.nodes
      return state.nodes.setBody id (.map (state.merged ++ state.kept))

end Nodes

end Yaml

/-!
## Reading nodes
-/

namespace Yaml

/-- The place between two tokens, with what is known there. -/
structure Composer where
  lexer : Lexer
  anchors : List (Text × NodeId)
  /-- The leads that tag handles stand for. -/
  handles : List (Text × Text)
  nodes : Nodes
  /-- The lists and maps around the place, the innermost first. -/
  enclosing : List NodeId
  /-- Whether an alias stands for a list or map around it. -/
  cyclic : Bool

/-- Reading that may change the place and may stop. -/
abbrev Composing := StateT Composer (Except YamlFault)

namespace Composing

/-- Stops at a text that breaks the rules of the format. -/
def refuse {Value : Type} : Composing Value := fun _ => malformed

/-- The next token. -/
def peek : Composing Token := fun composer => do
  let (token, lexer) ← composer.lexer.peek
  return (token, { composer with lexer })

/-- Goes behind the next token. -/
def drop : Composing Unit := modify fun composer => { composer with lexer := composer.lexer.drop }

/-- Anchor and tag in front of a node, in either order. -/
structure Properties where
  anchor : Option Text
  tag : Option (Option Text × Text)

def properties : Composing Properties := do
  match ← peek with
  | .anchor name =>
      drop
      match ← peek with
      | .tag handle suffix =>
          drop
          return ⟨some name, some (handle, suffix)⟩
      | _ => return ⟨some name, none⟩
  | .tag handle suffix =>
      drop
      match ← peek with
      | .anchor name =>
          drop
          return ⟨some name, some (handle, suffix)⟩
      | _ => return ⟨none, some (handle, suffix)⟩
  | _ => return ⟨none, none⟩

/-- The address of a tag, or nothing for a node that has none or only an exclamation mark. -/
inductive Marked
  | none
  | bare
  | tag (tag : Tag)

def marked : Option (Option Text × Text) → Composing Marked
  | .none => return .none
  | .some (handle, suffix) => do
      let address ←
        match handle with
        | .none => pure suffix
        | .some handle =>
            match (← get).handles.find? fun entry => entry.1 == handle with
            | .some entry => pure (entry.2 ++ suffix)
            | .none => refuse
      return if address = ("!" : Text) then .bare else .tag (Tag.ofAddress address)

/-- The tag of a list or map. -/
def Marked.orElse (tag : Tag) : Marked → Tag
  | .tag own => own
  | _ => tag

/-- The tag of a scalar. -/
def Marked.ofScalar (content : Text) (plain : Bool) : Marked → Tag
  | .tag own => own
  | .bare => plainTag content
  | .none => if plain then plainTag content else .string

/-- Refuses an anchor that the document named before. -/
def checkAnchor : Option Text → Composing Unit
  | none => return
  | some name => do
      if (← get).anchors.any fun entry => entry.1 == name then refuse

/-- Adds a node under its anchor. -/
def add (anchor : Option Text) (node : Node) : Composing NodeId := do
  let composer ← get
  let id := composer.nodes.size
  set { composer with
    nodes := composer.nodes.push node
    anchors := (anchor.map fun name => (name, id)).toList ++ composer.anchors }
  return id

/-- The node that stands where nothing is written. -/
def addEmpty : Composing NodeId := add none ⟨.null, .scalar []⟩

/-- How many lists and maps may be open at once. -/
def deepest : Nat := 489

/-- Adds a list or map and reads what it contains. -/
def enclose (anchor : Option Text) (node : Node) (read : Composing NodeBody) :
    Composing NodeId := do
  if deepest ≤ (← get).enclosing.length then throw .depth
  let id ← add anchor node
  modify fun composer => { composer with enclosing := id :: composer.enclosing }
  let body ← read
  modify fun composer =>
    { composer with
      nodes := composer.nodes.setBody id body, enclosing := composer.enclosing.drop 1 }
  return id

/-- Adds a list and reads its items. -/
def addList (anchor : Option Text) (tag : Tag) (read : Composing (List NodeId)) :
    Composing NodeId :=
  enclose anchor ⟨tag, .list []⟩ (return .list (← read))

/-- Adds a map and reads its entries. -/
def addMap (anchor : Option Text) (tag : Tag) (read : Composing (List (NodeId × NodeId))) :
    Composing NodeId :=
  enclose anchor ⟨tag, .map []⟩ (return .map (← read))

/-- The node of an alias. -/
def aliased (name : Text) : Composing NodeId := do
  let composer ← get
  match composer.anchors.find? fun entry => entry.1 == name with
  | none => refuse
  | some (_, id) =>
      if composer.enclosing.contains id then set { composer with cyclic := true }
      return id

/-- The form of block in which a node may be written. -/
inductive Place
  /-- Inside brackets. -/
  | flow
  | block
  /-- In a block where the entries of a list need no indentation of their own. -/
  | loose
deriving DecidableEq

/-- Nothing is written behind an anchor or tag. -/
def emptyContent (marked : Marked) (anchor : Option Text) : Composing NodeId :=
  match marked with
  | .tag tag => add anchor ⟨tag, .scalar []⟩
  | .bare => add anchor ⟨.null, .scalar []⟩
  | .none => if anchor.isSome then add anchor ⟨.null, .scalar []⟩ else refuse

mutual

/-- The node at a place. -/
def node (place : Place) : Nat → Composing NodeId
  | 0 => refuse
  | fuel + 1 => do
      match ← peek with
      | .reference name =>
          let id ← aliased name
          drop
          return id
      | _ =>
          let properties ← properties
          let marked ← marked properties.tag
          let token ← peek
          checkAnchor properties.anchor
          content place marked properties.anchor token fuel

/-- A node behind its anchor and tag that begins with the given token. -/
def content (place : Place) (marked : Marked) (anchor : Option Text) (token : Token) :
    Nat → Composing NodeId
  | 0 => refuse
  | fuel + 1 =>
      match token with
      | .scalar text plain => do
          drop
          add anchor ⟨marked.ofScalar text plain, .scalar text⟩
      | .flowListStart => addList anchor (marked.orElse .list) do
          drop
          flowItems true fuel
      | .flowMapStart => addMap anchor (marked.orElse .map) do
          drop
          flowEntries true fuel
      | .blockEntry =>
          if place = .loose then addList anchor (marked.orElse .list) (looseItems fuel)
          else emptyContent marked anchor
      | .blockListStart =>
          if place = .flow then emptyContent marked anchor
          else addList anchor (marked.orElse .list) do
            drop
            blockItems fuel
      | .blockMapStart =>
          if place = .flow then emptyContent marked anchor
          else addMap anchor (marked.orElse .map) do
            drop
            blockEntries fuel
      | _ => emptyContent marked anchor

/-- The entries of a block list, to its end. -/
def blockItems : Nat → Composing (List NodeId)
  | 0 => refuse
  | fuel + 1 => do
      match ← peek with
      | .blockEntry =>
          drop
          let item ←
            match ← peek with
            | .blockEntry | .blockEnd => addEmpty
            | _ => node .block fuel
          return item :: (← blockItems fuel)
      | .blockEnd =>
          drop
          return []
      | _ => refuse

/-- The entries of a list that is not indented further than its key. -/
def looseItems : Nat → Composing (List NodeId)
  | 0 => refuse
  | fuel + 1 => do
      match ← peek with
      | .blockEntry =>
          drop
          let item ←
            match ← peek with
            | .blockEntry | .key | .value | .blockEnd => addEmpty
            | _ => node .block fuel
          return item :: (← looseItems fuel)
      | _ => return []

/-- The entries of a block map, to its end. -/
def blockEntries : Nat → Composing (List (NodeId × NodeId))
  | 0 => refuse
  | fuel + 1 => do
      match ← peek with
      | .blockEnd =>
          drop
          return []
      | .key =>
          drop
          let key ←
            match ← peek with
            | .key | .value | .blockEnd => addEmpty
            | _ => node .loose fuel
          let value ← blockValue fuel
          return (key, value) :: (← blockEntries fuel)
      | _ => refuse

/-- The value of an entry of a block map. -/
def blockValue : Nat → Composing NodeId
  | 0 => refuse
  | fuel + 1 => do
      match ← peek with
      | .value =>
          drop
          match ← peek with
          | .key | .value | .blockEnd => addEmpty
          | _ => node .loose fuel
      | _ => addEmpty

/-- The entries of a list in brackets, to its closing bracket. -/
def flowItems (first : Bool) : Nat → Composing (List NodeId)
  | 0 => refuse
  | fuel + 1 => do
      match ← peek with
      | .flowListEnd =>
          drop
          return []
      | token =>
          if !first then
            if token = .flowEntry then drop else refuse
          match ← peek with
          | .flowListEnd =>
              drop
              return []
          | .key =>
              let item ← addMap none .map do
                drop
                let key ←
                  match ← peek with
                  | .value | .flowEntry | .flowListEnd => addEmpty
                  | _ => node .flow fuel
                return [(key, ← flowValue .flowListEnd fuel)]
              return item :: (← flowItems false fuel)
          | _ =>
              let item ← node .flow fuel
              return item :: (← flowItems false fuel)

/-- The value of an entry inside brackets that `closing` closes. -/
def flowValue (closing : Token) : Nat → Composing NodeId
  | 0 => refuse
  | fuel + 1 => do
      match ← peek with
      | .value =>
          drop
          let token ← peek
          if token = .flowEntry || token = closing then addEmpty else node .flow fuel
      | _ => addEmpty

/-- The entries of a map in braces, to its closing brace. -/
def flowEntries (first : Bool) : Nat → Composing (List (NodeId × NodeId))
  | 0 => refuse
  | fuel + 1 => do
      match ← peek with
      | .flowMapEnd =>
          drop
          return []
      | token =>
          if !first then
            if token = .flowEntry then drop else refuse
          match ← peek with
          | .flowMapEnd =>
              drop
              return []
          | .key =>
              drop
              let key ←
                match ← peek with
                | .value | .flowEntry | .flowMapEnd => addEmpty
                | _ => node .flow fuel
              let value ← flowValue .flowMapEnd fuel
              return (key, value) :: (← flowEntries false fuel)
          | _ =>
              let key ← node .flow fuel
              let value ← addEmpty
              return (key, value) :: (← flowEntries false fuel)

end

/-- The handles that every document knows. -/
def standardHandles : List (Text × Text) :=
  [(("!" : Text), ("!" : Text)), (("!!" : Text), Tag.standardLead)]

/-- The directives in front of a document: at most one version, which must be of the first major
number, and at most one lead for each handle. -/
def directives (versioned : Bool) (handles : List (Text × Text)) :
    Nat → Composing (List (Text × Text))
  | 0 => refuse
  | fuel + 1 => do
      match ← peek with
      | .version major =>
          drop
          if versioned || major ≠ 1 then refuse else directives true handles fuel
      | .tagLead handle lead =>
          drop
          if handles.any fun entry => entry.1 == handle then refuse
          else directives versioned ((handle, lead) :: handles) fuel
      | .otherDirective =>
          drop
          directives versioned handles fuel
      | _ => return handles

/-- Behind the only document nothing but document ends may follow. -/
def finish : Nat → Composing Unit
  | 0 => refuse
  | fuel + 1 => do
      match ← peek with
      | .streamEnd => return
      | .documentEnd =>
          drop
          finish fuel
      | _ =>
          let _ ← directives false [] fuel
          refuse

/-- The node of the only document, to the end of the text. -/
def document (fuel : Nat) : Composing NodeId := do
  let id ← node .block fuel
  finish fuel
  return id

/-- The root node of a text that holds at most one document. -/
def root (fuel : Nat) : Composing (Option NodeId) := do
  match ← peek with
  | .streamEnd => return none
  | .version _ | .tagLead _ _ | .otherDirective | .documentStart =>
      let handles ← directives false [] fuel
      match ← peek with
      | .documentStart =>
          drop
          modify fun composer => { composer with handles := handles ++ standardHandles }
          match ← peek with
          | .version _ | .tagLead _ _ | .otherDirective | .documentStart | .documentEnd
          | .streamEnd =>
              let id ← addEmpty
              finish fuel
              return some id
          | _ => return some (← document fuel)
      | _ => refuse
  | _ => return some (← document fuel)

end Composing

/-- The graph of a text, if there is a document in it. -/
def graphOf (text : Text) : Except YamlFault (Option Graph) := do
  if !text.all isReadable then malformed
  let composer : Composer :=
    { lexer := Lexer.start text, anchors := [], handles := Composing.standardHandles, nodes := #[]
      enclosing := [], cyclic := false }
  let (root?, composer) ← (Composing.root (8 * text.length + 16)).run composer
  return root?.map fun root => { nodes := composer.nodes, root, cyclic := composer.cyclic }

end Yaml

end EventForge
