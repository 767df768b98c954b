import PostQuery.Document
import PostQuery.Yaml.Scalar

/-!
# Nodes of a YAML document

The tokens of a document make a graph of nodes: scalars, sequences and mappings, each with its kind,
which refer to each other by number. An alias is the node of its anchor once more, also inside that
node, so a document can hold itself. An anchor may not be set twice. A document holds at most one
node that is not inside another, and what follows its end must be the end of the text.
-/

namespace PostQuery.Yaml

inductive Node where
  | scalar (kind : Kind) (text : String)
  | sequence (kind : Kind) (items : List NodeId)
  | mapping (kind : Kind) (entries : List (NodeId × NodeId))
  deriving Inhabited

namespace Node

/-- The node where nothing is written. -/
def empty : Node := .scalar .null ""

/-- The kind of a node. -/
def kind : Node → Kind
  | .scalar kind _ | .sequence kind _ | .mapping kind _ => kind

/-- The entries of a mapping; other nodes have none. -/
def entries : Node → List (NodeId × NodeId)
  | .mapping _ entries => entries
  | _ => []

/-- The node as one of another kind. -/
def withKind (kind : Kind) : Node → Node
  | .scalar _ text => .scalar kind text
  | .sequence _ items => .sequence kind items
  | .mapping _ entries => .mapping kind entries

end Node

/-- The nodes of a document by number. -/
abbrev Nodes := Array Node

/-- The node with a number. -/
def Nodes.get (nodes : Nodes) (id : NodeId) : Node := nodes.getD id Node.empty

namespace Node

/-- The handles of tags with what they stand for. -/
abbrev Handles := List (String × String)

/-- The handles every document has. -/
def standardHandles : Handles := [("!", "!"), ("!!", Kind.leading)]

/-- What is left to be read, the nodes so far, and the anchors with their nodes. -/
structure Source where
  tokens : List Token
  nodes : Nodes := #[]
  anchors : List (String × NodeId) := []

namespace Source

/-- What is left after one token. -/
def rest (s : Source) : Source := { s with tokens := s.tokens.drop 1 }

/-- The fault of a source that cannot go on as it must. -/
def fault (s : Source) : Fault :=
  match s.tokens with
  | .fault f :: _ => f
  | _ => .malformed

/-- The next token ends an item of a block sequence. -/
def endsBlockItem (s : Source) : Bool :=
  match s.tokens with
  | .blockEntry :: _ | .blockEnd :: _ => true
  | _ => false

/-- The next token ends a key or a value of a block mapping. -/
def endsBlockPart (s : Source) : Bool :=
  match s.tokens with
  | .key :: _ | .value :: _ | .blockEnd :: _ => true
  | _ => false

/-- The next token ends an item of a sequence that is not indented. -/
def endsIndentlessItem (s : Source) : Bool :=
  match s.tokens with
  | .blockEntry :: _ => true
  | _ => s.endsBlockPart

/-- The next token ends a part inside brackets or braces. -/
def endsFlowPart (s : Source) : Bool :=
  match s.tokens with
  | .flowEntry :: _ | .flowSequenceEnd :: _ | .flowMappingEnd :: _ => true
  | _ => false

/-- The next token ends a key inside brackets or braces. -/
def endsFlowKey (s : Source) : Bool :=
  match s.tokens with
  | .value :: _ => true
  | _ => s.endsFlowPart

/-- Adds a node under the next number. -/
def add (s : Source) (node : Node) : NodeId × Source :=
  (s.nodes.size, { s with nodes := s.nodes.push node })

/-- Replaces a node. -/
def set (s : Source) (id : NodeId) (node : Node) : Source :=
  { s with nodes := s.nodes.setIfInBounds id node }

/-- Sets an anchor. -/
def bind (s : Source) (anchor : Option String) (id : NodeId) : Source :=
  match anchor with
  | some name => { s with anchors := (name, id) :: s.anchors }
  | none => s

/-- The anchor has been set. -/
def isBound (s : Source) (anchor : Option String) : Bool :=
  match anchor with
  | some name => s.anchors.any fun e => e.1 == name
  | none => false

end Source

/-- An anchor and a tag in front of a node, in either order. -/
def properties (s : Source) : Option String × Option (Option String × String) × Source :=
  match s.tokens with
  | .anchor name :: .tag handle suffix :: rest =>
    (some name, some (handle, suffix), { s with tokens := rest })
  | .tag handle suffix :: .anchor name :: rest =>
    (some name, some (handle, suffix), { s with tokens := rest })
  | .anchor name :: rest => (some name, none, { s with tokens := rest })
  | .tag handle suffix :: rest => (none, some (handle, suffix), { s with tokens := rest })
  | _ => (none, none, s)

/-- The tag in full; the tag that says nothing is none. -/
def fullTag (handles : Handles) : Option (Option String × String) → Except Fault (Option String)
  | none => .ok none
  | some (none, suffix) => .ok (some suffix)
  | some (some handle, suffix) =>
    match handles.find? fun e => e.1 == handle with
    | some e => .ok (some (e.2 ++ suffix))
    | none => .error .malformed

/-- The kind of a collection with a tag. -/
def collectionKind (tag : Option String) (kind : Kind) : Kind :=
  match tag with
  | none => kind
  | some t => if t == "!" then kind else Kind.ofTag t

/-- The kind of a scalar with a tag. -/
def scalarKind (tag : Option String) (text : String) (plain : Bool) : Kind :=
  match tag with
  | none => if plain then plainKind text else .text
  | some t => if t == "!" then plainKind text else Kind.ofTag t

mutual

/-- The next node. Block collections are read only where they may stand, and a sequence that is not
indented only as a part of a block mapping. A collection gets its number before its parts do, so
that they can refer to it. The number bounds the steps. -/
def read (handles : Handles) : Nat → Bool → Bool → Source → Except Fault (NodeId × Source)
  | 0, _, _, _ => .error .malformed
  | fuel + 1, block, indentless, s =>
    match s.tokens with
    | .alias name :: _ =>
      match s.anchors.find? fun e => e.1 == name with
      | some e => .ok (e.2, s.rest)
      | none => .error .malformed
    | _ => do
      let (anchor, tag, s) := properties s
      let tag ← fullTag handles tag
      if s.isBound anchor then throw .malformed
      let leaf (node : Node) (s : Source) : Except Fault (NodeId × Source) :=
        let (id, s) := s.add node
        .ok (id, s.bind anchor id)
      let nothing : Except Fault (NodeId × Source) :=
        if anchor.isNone && tag.isNone then .error s.fault
        else leaf (.scalar (scalarKind tag "" true) "") s
      let sequence (items : Source → Except Fault (List NodeId × Source)) := do
        let kind := collectionKind tag .sequence
        let (id, s) := s.add (.sequence kind [])
        let (ids, s) ← items (s.bind anchor id)
        pure (id, s.set id (.sequence kind ids))
      let mapping (entries : Source → Except Fault (List (NodeId × NodeId) × Source)) := do
        let kind := collectionKind tag .mapping
        let (id, s) := s.add (.mapping kind [])
        let (ids, s) ← entries (s.bind anchor id)
        pure (id, s.set id (.mapping kind ids))
      match s.tokens with
      | .scalar text plain :: _ => leaf (.scalar (scalarKind tag text plain) text) s.rest
      | .flowSequence :: _ => sequence fun s => flowItems handles fuel true s.rest
      | .flowMapping :: _ => mapping fun s => flowEntries handles fuel true s.rest
      | .blockEntry :: _ =>
        if indentless then sequence fun s => indentlessItems handles fuel s else nothing
      | .blockSequence :: _ =>
        if block then sequence fun s => blockItems handles fuel s.rest else nothing
      | .blockMapping :: _ =>
        if block then mapping fun s => blockEntries handles fuel s.rest else nothing
      | _ => nothing

/-- The items of a block sequence up to its end. -/
def blockItems (handles : Handles) : Nat → Source → Except Fault (List NodeId × Source)
  | 0, _ => .error .malformed
  | fuel + 1, s =>
    match s.tokens with
    | .blockEntry :: _ => do
      let s := s.rest
      let (item, s) ←
        if s.endsBlockItem then pure (s.add empty) else read handles fuel true false s
      let (items, s) ← blockItems handles fuel s
      pure (item :: items, s)
    | .blockEnd :: _ => .ok ([], s.rest)
    | _ => .error s.fault

/-- The items of a sequence that is not indented, which ends where no item follows. -/
def indentlessItems (handles : Handles) : Nat → Source → Except Fault (List NodeId × Source)
  | 0, _ => .error .malformed
  | fuel + 1, s =>
    match s.tokens with
    | .blockEntry :: _ => do
      let s := s.rest
      let (item, s) ←
        if s.endsIndentlessItem then pure (s.add empty) else read handles fuel true false s
      let (items, s) ← indentlessItems handles fuel s
      pure (item :: items, s)
    | _ => .ok ([], s)

/-- The entries of a block mapping up to its end. -/
def blockEntries (handles : Handles) :
    Nat → Source → Except Fault (List (NodeId × NodeId) × Source)
  | 0, _ => .error .malformed
  | fuel + 1, s =>
    match s.tokens with
    | .key :: _ => do
      let s := s.rest
      let (key, s) ←
        if s.endsBlockPart then pure (s.add empty) else read handles fuel true true s
      let (value, s) ← match s.tokens with
        | .value :: _ =>
          let s := s.rest
          if s.endsBlockPart then pure (s.add empty) else read handles fuel true true s
        | _ => pure (s.add empty)
      let (entries, s) ← blockEntries handles fuel s
      pure ((key, value) :: entries, s)
    | .blockEnd :: _ => .ok ([], s.rest)
    | _ => .error s.fault

/-- The value of a key inside brackets or braces, which may be missing. -/
def flowValue (handles : Handles) : Nat → Source → Except Fault (NodeId × Source)
  | 0, _ => .error .malformed
  | fuel + 1, s =>
    match s.tokens with
    | .value :: _ =>
      let s := s.rest
      if s.endsFlowPart then .ok (s.add empty) else read handles fuel false false s
    | _ => .ok (s.add empty)

/-- An entry that begins with a key, inside brackets or braces. -/
def flowPair (handles : Handles) : Nat → Source → Except Fault ((NodeId × NodeId) × Source)
  | 0, _ => .error .malformed
  | fuel + 1, s => do
    let (key, s) ← if s.endsFlowKey then pure (s.add empty) else read handles fuel false false s
    let (value, s) ← flowValue handles fuel s
    pure ((key, value), s)

/-- The items inside brackets up to the closing one. An item with a key is a mapping of its own. -/
def flowItems (handles : Handles) : Nat → Bool → Source → Except Fault (List NodeId × Source)
  | 0, _, _ => .error .malformed
  | fuel + 1, first, s =>
    match s.tokens with
    | .flowSequenceEnd :: _ => .ok ([], s.rest)
    | _ => do
      let s ← match first, s.tokens with
        | true, _ => pure s
        | false, .flowEntry :: _ => pure s.rest
        | false, _ => throw s.fault
      match s.tokens with
      | .flowSequenceEnd :: _ => pure ([], s.rest)
      | .key :: _ => do
        let (pair, s) ← flowPair handles fuel s.rest
        let (item, s) := s.add (.mapping .mapping [pair])
        let (items, s) ← flowItems handles fuel false s
        pure (item :: items, s)
      | _ => do
        let (item, s) ← read handles fuel false false s
        let (items, s) ← flowItems handles fuel false s
        pure (item :: items, s)

/-- The entries inside braces up to the closing one. A node without a key's mark is a key with
nothing for its value. -/
def flowEntries (handles : Handles) :
    Nat → Bool → Source → Except Fault (List (NodeId × NodeId) × Source)
  | 0, _, _ => .error .malformed
  | fuel + 1, first, s =>
    match s.tokens with
    | .flowMappingEnd :: _ => .ok ([], s.rest)
    | _ => do
      let s ← match first, s.tokens with
        | true, _ => pure s
        | false, .flowEntry :: _ => pure s.rest
        | false, _ => throw s.fault
      match s.tokens with
      | .flowMappingEnd :: _ => pure ([], s.rest)
      | .key :: _ => do
        let (pair, s) ← flowPair handles fuel s.rest
        let (entries, s) ← flowEntries handles fuel false s
        pure (pair :: entries, s)
      | _ => do
        let (key, s) ← read handles fuel false false s
        let (value, s) := s.add empty
        let (entries, s) ← flowEntries handles fuel false s
        pure ((key, value) :: entries, s)

end

/-- Reads directives: at most one version, which must be of the first edition, and handles, each of
them set once. -/
def readDirectives : List Token → Bool → Handles → Except Fault (Handles × List Token)
  | .directive d :: rest, versioned, handles =>
    match d with
    | .version major _ =>
      if versioned || major ≠ 1 then .error .malformed else readDirectives rest true handles
    | .tag handle leading =>
      if handles.any fun e => e.1 == handle then .error .malformed
      else readDirectives rest versioned ((handle, leading) :: handles)
    | .other => readDirectives rest versioned handles
  | tokens, _, handles => .ok (handles ++ standardHandles, tokens)

/-- The next token begins or ends a document. -/
def atBoundary : List Token → Bool
  | .directive _ :: _ | .documentStart :: _ | .documentEnd :: _ | .streamEnd :: _ => true
  | _ => false

/-- Nothing but ends of the document is left. -/
def finish : List Token → Except Fault Unit
  | .documentEnd :: rest => finish rest
  | [.streamEnd] => .ok ()
  | .fault f :: _ => .error f
  | _ => .error .malformed

/-- The nodes of a document, and the one that all others are inside. -/
structure Tree where
  nodes : Nodes
  root : NodeId

/-- The content of a document and nothing behind it. -/
def readContent (handles : Handles) (tokens : List Token) : Except Fault Tree := do
  let (root, s) ← read handles (3 * tokens.length + 3) true false { tokens }
  finish s.tokens
  pure ⟨s.nodes, root⟩

/-- The nodes of a document, if it has any. -/
def ofTokens? (tokens : List Token) : Except Fault (Option Tree) :=
  match tokens with
  | .streamEnd :: _ => .ok none
  | .directive _ :: _ | .documentStart :: _ => do
    let (handles, tokens) ← readDirectives tokens false []
    match tokens with
    | .documentStart :: rest =>
      if atBoundary rest then do
        finish rest
        pure (some ⟨#[empty], 0⟩)
      else (readContent handles rest).map some
    | .fault f :: _ => throw f
    | _ => throw .malformed
  | _ => (readContent standardHandles tokens).map some

end Node

end PostQuery.Yaml
