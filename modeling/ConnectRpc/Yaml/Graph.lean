import ConnectRpc.Yaml.ImplicitTag
import ConnectRpc.Yaml.Token

/-!
# From tokens to nodes

A document is a graph of nodes: an alias is the node that its anchor names, even one that is still
being read, so that a node may contain itself. Nodes are numbered in the order in which they start.

* `Graph.ofTokens`: the graph of the only document of a token list; none if there is no document.

Reading follows the grammar of block and flow collections. In a flow sequence a pair may stand by
itself, as a mapping with one entry; in a block mapping a sequence may stand at the indentation of
its key. A key or a value that is left out is an empty scalar.
-/

namespace ConnectRpc.Yaml

/-- The number of a node. -/
abbrev NodeId := Nat

/-- What a node consists of. -/
inductive Content where
  | scalar (text : List Text.Point)
  | sequence (items : List NodeId)
  | mapping (entries : List (NodeId × NodeId))
  deriving DecidableEq, Repr

/-- A node. -/
structure Node where
  kind : Kind
  content : Content
  deriving DecidableEq, Repr

/-- A document: its nodes by number, and the number of the outermost one. -/
structure Graph where
  nodes : Array Node
  root : NodeId

/-! ## Reading -/

/-- What has been read, and what is left to read. -/
structure Reading where
  tokens : List Token
  nodes : Array Node
  /-- The nodes that anchors name. -/
  anchors : List (String × NodeId)
  /-- What the handles of tags stand for. -/
  handles : List (String × String)

/-- A step of reading. -/
abbrev Read := StateT Reading (Except Fault)

namespace Read

/-- The handles that are always there. -/
def standardHandles : List (String × String) := [("!", "!"), ("!!", Kind.tagPrefix)]

/-- The next token; a fault ends the reading. -/
def peek : Read Token := do
  match (← get).tokens with
  | [] => throw .malformed
  | .fault f :: _ => throw f
  | t :: _ => return t

/-- Goes past the next token. -/
def advance : Read Unit := modify fun s => { s with tokens := s.tokens.drop 1 }

/-- Goes past the next token if it is the given one, and says whether it was. -/
def skip (t : Token) : Read Bool := do
  if (← peek) = t then
    advance
    return true
  else return false

/-- Goes past the next token, which must be the given one. -/
def expect (t : Token) : Read Unit := do
  if !(← skip t) then throw .malformed

/-- Adds a node. -/
def add (kind : Kind) (content : Content) : Read NodeId := do
  let s ← get
  set { s with nodes := s.nodes.push ⟨kind, content⟩ }
  return s.nodes.size

/-- Completes a node whose parts have been read. -/
def complete (id : NodeId) (content : Content) : Read Unit :=
  modify fun s => { s with nodes := s.nodes.modify id fun node => { node with content } }

/-- The node that stands for a key or a value that is left out. -/
def omitted : Read NodeId := add .null (.scalar [])

/-- Lets an anchor name a node; no two nodes have one anchor. -/
def anchorAt (id : NodeId) : Option String → Read Unit
  | none => return ()
  | some name => do
    let s ← get
    if (s.anchors.lookup name).isSome then throw .malformed
    set { s with anchors := (name, id) :: s.anchors }

/-- The tag with its handle replaced. -/
def resolveTag (t : TagText) : Read String := do
  match t.handle with
  | none => return t.suffix
  | some handle =>
    match (← get).handles.lookup handle with
    | some start => return start ++ t.suffix
    | none => throw .malformed

/-- What stands before a node: an anchor and a tag, in either order. -/
structure Properties where
  anchor : Option String
  tag : Option String

/-- Reads what stands before a node. -/
def properties : Read Properties := do
  match ← peek with
  | .anchor name => do
    advance
    match ← peek with
    | .tag t => do
      advance
      return ⟨some name, some (← resolveTag t)⟩
    | _ => return ⟨some name, none⟩
  | .tag t => do
    advance
    match ← peek with
    | .anchor name => do
      advance
      return ⟨some name, some (← resolveTag t)⟩
    | _ => return ⟨none, some (← resolveTag t)⟩
  | _ => return ⟨none, none⟩

/-- The type of a node: that of its tag, or that of its form where there is no tag or the tag is the
mark by itself. -/
def Properties.kind (p : Properties) (byForm : Kind) : Kind :=
  match p.tag with
  | none => byForm
  | some tag => if tag = "!" then byForm else Kind.ofTag tag

/-- The type of a scalar. Without a tag only a plain one is looked at; the mark by itself asks for a
look at any. -/
def Properties.scalarKind (p : Properties) (text : List Text.Point) (isPlain : Bool) : Kind :=
  p.kind (if isPlain || p.tag.isSome then Kind.ofPlain text else .text)

/-- Where a node stands. -/
inductive Setting where
  /-- Inside a flow collection, where indentation opens nothing. -/
  | flow
  /-- In a block. -/
  | block
  /-- In a block mapping, where a sequence needs no indentation of its own. -/
  | entry
  deriving DecidableEq

mutual

/-- Reads a node. Every function of this group has a bound on the depth of the reading, of which
each token needs at most three. -/
def node : Nat → Setting → Read NodeId
  | 0, _ => throw .malformed
  | depth + 1, setting => do
    match ← peek with
    | .alias name => do
      advance
      match (← get).anchors.lookup name with
      | some id => return id
      | none => throw .malformed
    | _ => do
      let p ← properties
      let collect (byForm : Kind) (empty : Content) (parts : Read Content) : Read NodeId := do
        let id ← add (p.kind byForm) empty
        anchorAt id p.anchor
        complete id (← parts)
        return id
      match ← peek with
      | .scalar text isPlain => do
        advance
        let id ← add (p.scalarKind text isPlain) (.scalar text)
        anchorAt id p.anchor
        return id
      | .flowSequenceStart =>
        collect .sequence (.sequence []) do
          advance
          return .sequence (← flowItems depth true)
      | .flowMappingStart =>
        collect .mapping (.mapping []) do
          advance
          return .mapping (← flowEntries depth true)
      | token =>
        if token = .sequenceEntry ∧ setting = .entry then
          collect .sequence (.sequence []) do return .sequence (← looseItems depth)
        else if token = .sequenceStart ∧ setting ≠ .flow then
          collect .sequence (.sequence []) do
            advance
            return .sequence (← blockItems depth)
        else if token = .mappingStart ∧ setting ≠ .flow then
          collect .mapping (.mapping []) do
            advance
            return .mapping (← blockEntries depth)
        else if p.anchor.isSome || p.tag.isSome then do
          let id ← add (p.kind .null) (.scalar [])
          anchorAt id p.anchor
          return id
        else throw .malformed

/-- Reads a node, unless one of the given tokens comes first. -/
def nodeBefore : Nat → Setting → List Token → Read NodeId
  | 0, _, _ => throw .malformed
  | depth + 1, setting, ends => do
    if (← peek) ∈ ends then omitted else node depth setting

/-- Reads the items of a block sequence and its end. -/
def blockItems : Nat → Read (List NodeId)
  | 0 => throw .malformed
  | depth + 1 => do
    if ← skip .sequenceEntry then do
      let item ← nodeBefore depth .block [.sequenceEntry, .blockEnd]
      return item :: (← blockItems depth)
    else do
      expect .blockEnd
      return []

/-- Reads the items of a sequence without indentation of its own. -/
def looseItems : Nat → Read (List NodeId)
  | 0 => throw .malformed
  | depth + 1 => do
    if ← skip .sequenceEntry then do
      let item ← nodeBefore depth .block [.sequenceEntry, .key, .value, .blockEnd]
      return item :: (← looseItems depth)
    else return []

/-- Reads the entries of a block mapping and its end. -/
def blockEntries : Nat → Read (List (NodeId × NodeId))
  | 0 => throw .malformed
  | depth + 1 => do
    if ← skip .key then do
      let key ← nodeBefore depth .entry [.key, .value, .blockEnd]
      let value ←
        if ← skip .value then nodeBefore depth .entry [.key, .value, .blockEnd] else omitted
      return (key, value) :: (← blockEntries depth)
    else do
      expect .blockEnd
      return []

/-- Reads a value of a flow collection behind its key, if there is one. -/
def flowValue : Nat → Token → Read NodeId
  | 0, _ => throw .malformed
  | depth + 1, close => do
    if ← skip .value then nodeBefore depth .flow [.flowEntry, close] else omitted

/-- Reads the items of a flow sequence and its end. -/
def flowItems : Nat → Bool → Read (List NodeId)
  | 0, _ => throw .malformed
  | depth + 1, isFirst => do
    if ← skip .flowSequenceEnd then return []
    if !isFirst then
      expect .flowEntry
    if ← skip .flowSequenceEnd then return []
    let item ←
      if ← skip .key then do
        let pair ← add .mapping (.mapping [])
        let key ← nodeBefore depth .flow [.value, .flowEntry, .flowSequenceEnd]
        let value ← flowValue depth .flowSequenceEnd
        complete pair (.mapping [(key, value)])
        pure pair
      else node depth .flow
    return item :: (← flowItems depth false)

/-- Reads the entries of a flow mapping and its end. -/
def flowEntries : Nat → Bool → Read (List (NodeId × NodeId))
  | 0, _ => throw .malformed
  | depth + 1, isFirst => do
    if ← skip .flowMappingEnd then return []
    if !isFirst then
      expect .flowEntry
    if ← skip .flowMappingEnd then return []
    let entry ←
      if ← skip .key then do
        let key ← nodeBefore depth .flow [.value, .flowEntry, .flowMappingEnd]
        let value ← flowValue depth .flowMappingEnd
        pure (key, value)
      else do
        let key ← node depth .flow
        pure (key, ← omitted)
    return entry :: (← flowEntries depth false)

end

/-! ## Documents -/

/-- Goes past marks of document ends; the bound is the number of tokens. -/
def skipDocumentEnds : Nat → Read Unit
  | 0 => return ()
  | n + 1 => do
    if ← skip .documentEnd then skipDocumentEnds n

/-- Reads directives: one version, whose major part is one, and different handles. -/
def directives : Nat → Bool → Read Unit
  | 0, _ => return ()
  | n + 1, versioned => do
    match ← peek with
    | .directive d => do
      advance
      match d with
      | .version major _ =>
        if versioned || major != 1 then throw .malformed
        directives n true
      | .handle handle replacement => do
        let s ← get
        if (s.handles.lookup handle).isSome then throw .malformed
        set { s with handles := (handle, replacement) :: s.handles }
        directives n versioned
      | .other => directives n versioned
    | _ => modify fun s => { s with handles := s.handles ++ standardHandles }

/-- Reads what stands between documents. There is a document behind it if the answer is true. -/
def documentStart (n : Nat) : Read Bool := do
  skipDocumentEnds n
  if (← peek) = .streamEnd then return false
  modify fun s => { s with handles := [] }
  directives n false
  expect .documentStart
  return true

/-- Reads the outermost node of the first document, if there is a document. -/
def firstDocument (n : Nat) : Read (Option NodeId) := do
  let token ← peek
  let isMarked :=
    match token with
    | .directive _ => true
    | .documentStart => true
    | .streamEnd => true
    | _ => false
  if isMarked then
    if ← documentStart n then
      match ← peek with
      | .directive _ => return some (← omitted)
      | .documentStart => return some (← omitted)
      | .documentEnd => return some (← omitted)
      | .streamEnd => return some (← omitted)
      | _ => return some (← node (3 * n + 3) .block)
    else return none
  else return some (← node (3 * n + 3) .block)

/-- Reads a whole token list, which has at most one document. -/
def wholeText (n : Nat) : Read (Option NodeId) := do
  match ← firstDocument n with
  | none => return none
  | some root => do
    let _ ← skip .documentEnd
    if ← documentStart n then throw .malformed
    return some root

end Read

/-- The graph of the only document of a token list. -/
def Graph.ofTokens (ts : List Token) : Except Fault (Option Graph) := do
  let (root?, s) ← (Read.wholeText ts.length).run ⟨ts, #[], [], Read.standardHandles⟩
  return root?.map fun root => ⟨s.nodes, root⟩

end ConnectRpc.Yaml
