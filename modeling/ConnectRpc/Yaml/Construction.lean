import ConnectRpc.Schema.Document
import ConnectRpc.Text.Quoted
import ConnectRpc.Yaml.Binary
import ConnectRpc.Yaml.Graph
import ConnectRpc.Yaml.Layout
import ConnectRpc.Yaml.Numeral
import ConnectRpc.Yaml.Timestamp

/-!
# From nodes to documents

Every node that the outermost one reaches is given its value once. Scalars get theirs when they are
met; collections are only noted then and filled later, in the order in which they were noted, so
that a collection may contain itself. The first fault in this order counts.

Before a mapping is filled, the entries with the merge mark are replaced: the entries of the
mappings they name go before its own, so that of two entries with one key its own counts.

* `document`: the document of a YAML text; none if the text holds none.
-/

namespace ConnectRpc.Yaml

open Schema (Shape)

/-! ## Building -/

/-- What has been built. -/
structure Building where
  nodes : Array Node
  /-- The shapes of the nodes that have been met. -/
  shapes : Array (Option (Shape (List Text.Point) NodeId))
  /-- The collections that have been met, in this order. -/
  queue : Array NodeId

/-- A step of building. -/
abbrev Build := StateT Building (Except Fault)

namespace Build

/-- A node by its number. -/
def nodeAt (id : NodeId) : Build Node := do
  match (← get).nodes[id]? with
  | some node => return node
  | none => throw .malformed

/-- The entries of a mapping. -/
def entriesOf (id : NodeId) : Build (List (NodeId × NodeId)) := do
  match (← nodeAt id).content with
  | .mapping entries => return entries
  | _ => throw .malformed

/-- Replaces the entries of a mapping. -/
def setEntries (id : NodeId) (entries : List (NodeId × NodeId)) : Build Unit :=
  modify fun s =>
    { s with nodes := s.nodes.modify id fun node => { node with content := .mapping entries } }

/-- Makes the mark of a default a text, for it is one as a key. -/
def settleKey (id : NodeId) : Build Unit :=
  modify fun s =>
    { s with
      nodes := s.nodes.modify id fun node =>
        if node.kind = .default then { node with kind := .text } else node }

/-- The node has a type. -/
def hasKind (kind : Kind) (id : NodeId) : Build Bool := return (← nodeAt id).kind = kind

/-- Splits off the first entry with the merge mark. -/
def splitMerge : List (NodeId × NodeId) → Build (Option (NodeId × List (NodeId × NodeId)))
  | [] => return none
  | (key, value) :: rest => do
    if ← hasKind .merge key then return some (value, rest)
    else return (← splitMerge rest).map fun (found, others) => (found, (key, value) :: others)

/-- Replaces the merged entries of a mapping, given those found so far. The bound is more than the
number of entries of all mappings, and each step takes away one with the merge mark. -/
def merge : Nat → NodeId → List (NodeId × NodeId) → Build Unit
  | 0, _, _ => throw .malformed
  | bound + 1, id, found => do
    let entries ← entriesOf id
    match ← splitMerge entries with
    | none => do
      entries.forM fun entry => settleKey entry.1
      setEntries id (found ++ entries)
    | some (value, others) => do
      setEntries id others
      match (← nodeAt value).content with
      | .scalar _ => throw .malformed
      | .mapping _ => do
        merge bound value []
        merge bound id (found ++ (← entriesOf value))
      | .sequence items => do
        let merged ← items.mapM fun item => do
          let _ ← entriesOf item
          merge bound item []
          entriesOf item
        merge bound id (found ++ merged.reverse.flatten)

/-! ## Scalars -/

/-- The text of a scalar, or of the default of a mapping; the bound is the number of nodes. -/
def scalarText : Nat → NodeId → Build (List Text.Point)
  | 0, _ => throw .endlessDefault
  | bound + 1, id => do
    match (← nodeAt id).content with
    | .scalar text => return text
    | .sequence _ => throw .malformed
    | .mapping entries => do
      match ← entries.findM? fun entry => hasKind .default entry.1 with
      | some (_, value) => scalarText bound value
      | none => throw .malformed

/-- The words for booleans. -/
def booleans : List (String × Bool) :=
  [("yes", true), ("no", false), ("true", true), ("false", false), ("on", true), ("off", false)]

/-- The shape of a scalar of a type, or its fault. -/
def scalarShape (kind : Kind) (isMapping : Bool) (text : List Text.Point) :
    Except Fault (Shape (List Text.Point) NodeId) :=
  match kind with
  | .null => .ok .null
  | .bool =>
    match booleans.find? fun (word, _) => Text.pointsOf word = smallLetters text with
    | some (_, b) => .ok (.bool b)
    | none => .error .notABoolean
  | .int => (integer text).map fun _ => .other
  | .float => (float text).map fun _ => .other
  | .binary => (binary text).map fun _ => .other
  | .timestamp =>
    if isMapping then .error .timestampOfMapping else (timestamp text).map fun _ => .other
  | .text => .ok (.text text)
  | _ => .error .malformed

/-! ## Collections -/

/-- The type is one of collections. -/
def isCollection (kind : Kind) : Bool :=
  kind = .sequence || kind = .mapping || kind = .set || kind = .pairs

/-- The content is that of a mapping. -/
def isMapping : Content → Bool
  | .mapping _ => true
  | _ => false

/-- Gives a node its shape. -/
def setShape (id : NodeId) (shape : Shape (List Text.Point) NodeId) : Build Unit :=
  modify fun s => { s with shapes := s.shapes.modify id fun _ => some shape }

/-- Meets a node: a scalar gets its value, a collection is noted. -/
def meet (id : NodeId) : Build (Shape (List Text.Point) NodeId) := do
  match ((← get).shapes[id]?).join with
  | some shape => return shape
  | none => do
    let node ← nodeAt id
    if isCollection node.kind then do
      setShape id .other
      modify fun s => { s with queue := s.queue.push id }
      return .other
    else do
      let text ←
        if node.kind = .merge ∨ node.kind = .default ∨ node.kind = .unknown then throw .malformed
        else scalarText (← get).nodes.size id
      let shape ← scalarShape node.kind (isMapping node.content) text
      setShape id shape
      return shape

/-- Puts an entry into the entries with text keys: in the place of an equal key, or at the end. -/
def putText (key : String) (value : NodeId) : List (String × NodeId) → List (String × NodeId)
  | [] => [(key, value)]
  | (k, v) :: rest => if k = key then (k, value) :: rest else (k, v) :: putText key value rest

/-- Fills a mapping: the nodes of its entries are met, and its text keys are kept. -/
def fillMapping (bound : Nat) (id : NodeId) : Build (List (String × NodeId)) := do
  let _ ← entriesOf id
  merge bound id []
  (← entriesOf id).foldlM (fun kept (key, value) => do
    let shape ← meet key
    if isCollection (← nodeAt key).kind then throw .malformed
    let _ ← meet value
    match shape with
    | .text s =>
      match Text.chars? s with
      | some cs => return putText (String.ofList cs) value kept
      | none => return kept
    | _ => return kept) []

/-- Fills one pair of a sequence of pairs. -/
def fillPair (id : NodeId) : Build Unit := do
  match ← entriesOf id with
  | [(key, value)] => do
    let _ ← meet key
    let _ ← meet value
  | _ => throw .malformed

/-- Fills a collection. The pairs of a sequence of pairs are no nodes of their own; a number that no
node has stands for each. -/
def fill (bound : Nat) (id : NodeId) : Build Unit := do
  let node ← nodeAt id
  match node.kind, node.content with
  | .mapping, _ => setShape id (.map (← fillMapping bound id))
  | .set, _ => do
    let _ ← fillMapping bound id
  | .sequence, .sequence items => do
    items.forM fun item => do
      let _ ← meet item
    setShape id (.list items)
  | .pairs, .sequence items => do
    items.forM fillPair
    let s ← get
    setShape id (.list (items.map fun _ => s.nodes.size))
  | _, _ => throw .malformed

/-- Fills the collections from a place of the queue on; each node is in it once at most. -/
def fillFrom (bound : Nat) : Nat → Nat → Build Unit
  | 0, _ => return ()
  | steps + 1, place => do
    match (← get).queue[place]? with
    | none => return ()
    | some id => do
      fill bound id
      fillFrom bound steps (place + 1)

end Build

/-! ## Documents -/

/-- The number of entries of a node. -/
def Node.entryCount (node : Node) : Nat :=
  match node.content with
  | .mapping entries => entries.length
  | _ => 0

/-- The shapes of the nodes of a graph. -/
def Graph.shapes (g : Graph) : Except Fault (Array (Option (Shape (List Text.Point) NodeId))) := do
  let bound := g.nodes.foldl (fun n node => n + node.entryCount) 1
  let build : Build Unit := do
    let _ ← Build.meet g.root
    Build.fillFrom bound g.nodes.size 0
  let ((), s) ← build.run ⟨g.nodes, Array.replicate g.nodes.size none, #[]⟩
  return s.shapes

/-- A part of a document: the shapes of all its nodes, and the number of one of them. -/
structure Part where
  shapes : Array (Option (Shape (List Text.Point) NodeId))
  id : NodeId

/-- A shape with its parts replaced. -/
def mapShape {T α β : Type} (f : α → β) : Shape T α → Shape T β
  | .null => .null
  | .bool b => .bool b
  | .text s => .text s
  | .list items => .list (items.map f)
  | .map entries => .map (entries.map fun (key, value) => (key, f value))
  | .other => .other

instance : Schema.Document (List Text.Point) Part where
  shape p := mapShape (fun id => { p with id }) ((p.shapes[p.id]?).join.getD .other)

/-- The document of a YAML text; none if the text holds none. -/
def document (cs : List Char) : Except Fault (Option Part) := do
  if !cs.all isPrintable then throw .malformed
  match ← Graph.ofTokens (tokens cs) with
  | none => return none
  | some g => return some ⟨← g.shapes, g.root⟩

end ConnectRpc.Yaml
