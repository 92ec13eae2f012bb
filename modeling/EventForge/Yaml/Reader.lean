import EventForge.Yaml.Composition
import EventForge.Yaml.Scalar

/-!
# Reading YAML

The nodes of a graph get their values: scalars by their tags, lists, maps, sets, ordered maps and
lists of pairs.  A collection is empty at first, and collections are filled in the order in which
they were met; so the first fault is found level by level, and a collection can contain itself.
-/

namespace EventForge

namespace Yaml

/-- The value of a node. -/
inductive NodeValue
  /-- A scalar and its origin.  Numbers that are not equal to themselves are the same key only if
  they have the same origin. -/
  | scalar (document : Document) (origin : Nat)
  /-- The collection of a node. -/
  | collection (id : NodeId)

/-- What a collection contains. -/
inductive Contents
  | list (items : List NodeValue)
  | pairs (items : List (NodeValue × NodeValue))
  | set (items : List NodeValue)
  | mapping (entries : List (NodeValue × NodeValue))

/-- The values found so far. -/
structure Filling where
  nodes : Nodes
  /-- The values by node. -/
  values : Array (Option NodeValue)
  /-- The contents of the collections that were filled, by node. -/
  contents : Array (Option Contents)
  /-- The collections that were met and are still empty, in their order. -/
  waiting : List NodeId

/-- Giving values to nodes, which may fail. -/
abbrev Evaluation := StateT Filling (Except YamlFault)

namespace NodeValue

/-- Whether two values are the same key of a mapping. -/
def sameKey : NodeValue → NodeValue → Bool
  | .scalar first firstOrigin, .scalar second secondOrigin =>
      firstOrigin == secondOrigin || first.sameKey second
  | _, _ => false

/-- Whether a value can be a key. -/
def isKey : NodeValue → Bool
  | .scalar _ _ => true
  | .collection _ => false

/-- Adds an entry to a mapping.  A key that is there already keeps its place and gets the new
value. -/
def insertEntry (key value : NodeValue) :
    List (NodeValue × NodeValue) → List (NodeValue × NodeValue)
  | [] => [(key, value)]
  | entry :: entries =>
      if entry.1.sameKey key then (entry.1, value) :: entries
      else entry :: insertEntry key value entries

end NodeValue

namespace Evaluation

/-- Stops at a node without a value. -/
def refuse {Value : Type} : Evaluation Value := fun _ => malformed

/-- The text of a scalar, or of the scalar under the default key of a map. -/
def scalarText (nodes : Nodes) : Nat → NodeId → Except YamlFault Text
  | 0, _ => .error .depth
  | fuel + 1, id =>
      match nodes.body id with
      | .scalar content => .ok content
      | .list _ => malformed
      | .map entries =>
          match entries.find? fun entry => nodes.tag entry.1 = .value with
          | some entry => scalarText nodes fuel entry.2
          | none => malformed

/-- The value of a node that is no collection.  A moment must be written as a scalar itself. -/
def scalar (nodes : Nodes) (id : NodeId) : Except YamlFault NodeValue := do
  let tag := nodes.tag id
  match tag with
  | .merge | .value | .other => malformed
  | _ =>
      let text ← scalarText nodes (nodes.size + 1) id
      match tag, nodes.body id with
      | .moment, .map _ => throw .momentOfMap
      | _, _ =>
          let document ← Scalar.value tag text
          return .scalar document (if tag = .decimal && Scalar.isNaNWord text then 0 else id + 1)

/-- Whether a tag asks for a collection. -/
def isCollection : Tag → Bool
  | .list | .map | .set | .orderedMap | .pairs => true
  | _ => false

/-- The value of a node, which is found once. -/
def value (id : NodeId) : Evaluation NodeValue := do
  let filling ← get
  match filling.values.getD id none with
  | some found => return found
  | none =>
      if isCollection (filling.nodes.tag id) then
        let found := NodeValue.collection id
        set { filling with
          values := filling.values.setIfInBounds id (some found)
          waiting := filling.waiting ++ [id] }
        return found
      else
        let found ← scalar filling.nodes id
        set { filling with values := filling.values.setIfInBounds id (some found) }
        return found

/-- The items of a list. -/
def items (id : NodeId) : Evaluation (List NodeId) := do
  match (← get).nodes.body id with
  | .list items => return items
  | _ => refuse

/-- The entries of a map as a mapping. -/
def mapping (id : NodeId) : Evaluation (List (NodeValue × NodeValue)) := do
  let filling ← get
  match filling.nodes.body id with
  | .map _ =>
      let nodes ← filling.nodes.merge (filling.nodes.entryCount + 1) id
      set { filling with nodes }
      (nodes.entries id).foldlM (fun known entry => do
        let key ← value entry.1
        if !key.isKey then refuse
        return NodeValue.insertEntry key (← value entry.2) known) []
  | _ => refuse

/-- The key and value of a map with one entry. -/
def onlyEntry (id : NodeId) : Evaluation (NodeValue × NodeValue) := do
  match (← get).nodes.body id with
  | .map [entry] => return (← value entry.1, ← value entry.2)
  | _ => refuse

/-- What the collection of a node contains. -/
def contentsOf (id : NodeId) : Evaluation Contents := do
  match (← get).nodes.tag id with
  | .list => return .list (← (← items id).mapM value)
  | .orderedMap | .pairs => return .pairs (← (← items id).mapM onlyEntry)
  | .set => return .set ((← mapping id).map (·.1))
  | _ => return .mapping (← mapping id)

/-- Fills the waiting collections, and those that are met on the way. -/
def fillAll : Nat → Evaluation Unit
  | 0 => return
  | fuel + 1 => do
      let filling ← get
      match filling.waiting with
      | [] => return
      | id :: waiting =>
          set { filling with waiting }
          let contents ← contentsOf id
          modify fun filling =>
            { filling with contents := filling.contents.setIfInBounds id (some contents) }
          fillAll fuel

end Evaluation

/-- Collections as documents.  In a graph where some node contains itself every list and mapping
carries the number of its node. -/
structure Rendering where
  contents : Array (Option Contents)
  cyclic : Bool

/-- The documents of collections that are complete in themselves, by node. -/
abbrev Rendered := StateM (Array (Option Document))

namespace Rendering

/-- A document, and the nodes around it that it refers to. -/
abbrev Part := Document × List NodeId

/-- A list or mapping of a node, the nodes that it refers to being given. -/
def close (rendering : Rendering) (id : NodeId) (body : Document) (references : List NodeId) :
    Part :=
  if rendering.cyclic then (.knot id body, references.filter fun other => other != id)
  else (body, references)

/-- The value of a node below others; the first argument bounds the depth. -/
def value (rendering : Rendering) : Nat → List NodeId → NodeValue → Rendered Part
  | 0, _, _ => return (.null, [])
  | _ + 1, _, .scalar document _ => return (document, [])
  | fuel + 1, enclosing, .collection id => do
      match (← get).getD id none with
      | some document => return (document, [])
      | none =>
          let contents := (rendering.contents.getD id none).getD (.list [])
          if enclosing.contains id then
            let isList :=
              match contents with
              | .mapping _ => false
              | _ => true
            return (.again id isList, [id])
          let inner (found : NodeValue) : Rendered Part :=
            value rendering fuel (id :: enclosing) found
          let pairOf (entry : NodeValue × NodeValue) :
              Rendered ((Document × Document) × List NodeId) := do
            let key ← inner entry.1
            let found ← inner entry.2
            return ((key.1, found.1), key.2 ++ found.2)
          let part : Part ←
            match contents with
            | .list items => do
                let parts ← items.mapM inner
                pure (rendering.close id (.list (parts.map (·.1))) (parts.flatMap (·.2)))
            | .pairs items => do
                let parts ← items.mapM pairOf
                let tuples := parts.map fun part => Document.tuple [part.1.1, part.1.2]
                pure (rendering.close id (.list tuples) (parts.flatMap (·.2)))
            | .set items => do
                let parts ← items.mapM inner
                pure (.set (parts.map (·.1)), parts.flatMap (·.2))
            | .mapping entries => do
                let parts ← entries.mapM pairOf
                pure (rendering.close id (.mapping (parts.map (·.1))) (parts.flatMap (·.2)))
          if part.2.isEmpty then modify fun known => known.setIfInBounds id (some part.1)
          return part

end Rendering

/-- The document of a graph. -/
def Graph.document (graph : Graph) : Except YamlFault Document := do
  let size := graph.nodes.size
  let evaluation : Evaluation NodeValue := do
    let root ← Evaluation.value graph.root
    Evaluation.fillAll (size + 1)
    return root
  let (root, filling) ← evaluation.run
    { nodes := graph.nodes, values := Array.replicate size none
      contents := Array.replicate size none, waiting := [] }
  let rendering : Rendering := { contents := filling.contents, cyclic := graph.cyclic }
  return ((rendering.value (size + 1) [] root).run (Array.replicate size none)).1.1

/-- Reads a text that holds at most one document; an empty text is null. -/
def read (text : Text) : Except YamlFault Document := do
  match ← graphOf text with
  | none => return .null
  | some graph => graph.document

end Yaml

end EventForge
