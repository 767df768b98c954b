import PostQuery.Text.Utf8
import PostQuery.Value.Dict
import PostQuery.Yaml.Merge

/-!
# What a YAML document denotes

Every node denotes one item, and an alias denotes the very item of its anchor, so items may be shared
and may hold themselves.

Items are made level by level: the parts of a collection are looked at once all collections of the
levels above have been, and a value without parts at once where it is met. So of several faults the
one on the highest level is reported. A later entry of a dictionary replaces an earlier one of the
same key, and collections are no keys. A mapping that is tagged as a scalar stands for its default
entry.
-/

namespace PostQuery.Yaml

namespace Fault

/-- How many characters are shown of a text that is no integer. -/
def shownBound : Nat := 200

/-- What is reported of single values; other faults have no report of their own. -/
def message : Fault → String
  | .malformed => ""
  | .codePoint n =>
    if n < Nat.pow 2 31 then "chr() arg not in range(0x110000)"
    else "Python int too large to convert to C int"
  | .noInteger text base =>
    "invalid literal for int() with base " ++ unpadded base ++ ": "
      ++ String.ofList ((PostQuery.Text.quote text).toList.take shownBound)
  | .noFloat text => "could not convert string to float: " ++ PostQuery.Text.quote text
  | .noBoolean text => PostQuery.Text.quote text
  | .noTimestamp => "'NoneType' object has no attribute 'groupdict'"
  | .timestampNotText => "expected string or bytes-like object, got 'list'"
  | .noCharacter => "string index out of range"
  | .tooManyDigits bound count =>
    "Exceeds the limit (" ++ unpadded bound ++ " digits) for integer string conversion: value has "
      ++ unpadded count ++ " digits; use sys.set_int_max_str_digits() to increase the limit"
  | .endless => "maximum recursion depth exceeded"
  | .calendar f => f.message
  | .offset minutes =>
    "offset must be a timedelta strictly between -timedelta(hours=24) and timedelta(hours=24), "
      ++ "not " ++ durationText minutes ++ "."

/-- The kind of a fault of a single value; a malformed document has none. -/
def kind? : Fault → Option MisuseKind
  | .malformed => none
  | .codePoint n => some (if n < Nat.pow 2 31 then .value else .overflow)
  | .noInteger .. | .noFloat _ | .tooManyDigits .. | .calendar _ | .offset _ => some .value
  | .noBoolean _ => some .key
  | .noTimestamp => some .attribute
  | .timestampNotText => some .type
  | .noCharacter => some .index
  | .endless => some .recursion

end Fault

/-- The nodes of a document while their items are made, and the collections whose parts have yet to
be looked at, the latest first. -/
structure Assembly where
  nodes : Nodes
  items : Array (Option Item)
  waiting : List NodeId := []

namespace Assembly

/-- The text of a node that is to be a scalar: its own, or that of the default entry of a mapping.
The number bounds the defaults inside defaults. -/
def scalarText (nodes : Nodes) : Nat → NodeId → Except Fault String
  | 0, _ => .error .endless
  | fuel + 1, id =>
    match nodes.get id with
    | .scalar _ text => .ok text
    | .sequence .. => .error .malformed
    | .mapping _ entries =>
      match entries.find? fun e => (nodes.get e.1).kind == .default with
      | some e => scalarText nodes fuel e.2
      | none => .error .malformed

/-- The value of a node that is to be a scalar of a kind. A date has to be written as a scalar
itself. -/
def scalarValue (nodes : Nodes) (id : NodeId) (kind : Kind) : Except Fault Value := do
  let text ← scalarText nodes (nodes.size + 1) id
  match kind, nodes.get id with
  | .timestamp, .mapping .. => throw .timestampNotText
  | kind, _ => scalarOf id kind text

/-- The assembly with the item of a node. -/
def put (a : Assembly) (id : NodeId) (item : Item) : Assembly :=
  { a with items := a.items.setIfInBounds id (some item) }

/-- The assembly with a collection whose parts have yet to be looked at. -/
def wait (a : Assembly) (id : NodeId) (item : Item) : Assembly :=
  let a := a.put id item
  { a with waiting := id :: a.waiting }

/-- Begins with the item of a node, unless it is there. -/
def start (a : Assembly) (id : NodeId) : Except Fault Assembly :=
  if (a.items.getD id none).isSome then .ok a
  else
    match (a.nodes.get id).kind with
    | .sequence => .ok (a.wait id (.list []))
    | .mapping => .ok (a.wait id (.dict []))
    | .set => .ok (a.wait id (.set []))
    | .orderedMapping | .pairs => .ok (a.wait id (.pairs []))
    | .unknown | .merge | .default => .error .malformed
    | kind => do
      let v ← scalarValue a.nodes id kind
      pure (a.put id (.value v))

/-- Begins with the items of the key and the value of an entry. -/
def startEntry (a : Assembly) (entry : NodeId × NodeId) : Except Fault Assembly := do
  let a ← a.start entry.1
  a.start entry.2

/-- The key that a node denotes. -/
def key (a : Assembly) (id : NodeId) : Except Fault Value :=
  match a.items.getD id none with
  | some (.value v) => .ok v
  | _ => .error .malformed

/-- Entries with one more put among them. -/
def withEntry : List (Value × NodeId) → Value → NodeId → List (Value × NodeId)
  | [], k, id => [(k, id)]
  | (k', id') :: es, k, id =>
    if k'.eqv k then (k', id) :: es else (k', id') :: withEntry es k id

/-- The entries of a mapping, with all their items begun. -/
def entriesOf (a : Assembly) :
    List (NodeId × NodeId) → List (Value × NodeId) →
      Except Fault (List (Value × NodeId) × Assembly)
  | [], made => .ok (made, a)
  | entry :: rest, made => do
    let a ← a.start entry.1
    let k ← a.key entry.1
    let a ← a.start entry.2
    entriesOf a rest (withEntry made k entry.2)

/-- The entries of a mapping once its merge keys are followed. -/
def mappingEntries (a : Assembly) (id : NodeId) :
    Except Fault (List (Value × NodeId) × Assembly) :=
  match a.nodes.get id with
  | .mapping .. => do
    let nodes ← a.nodes.merged id
    let a := { a with nodes }
    a.entriesOf (nodes.entriesOf id) []
  | _ => .error .malformed

/-- The pairs of mappings with one entry each, with all their items begun. -/
def pairsOf (a : Assembly) :
    List NodeId → Except Fault (List (NodeId × NodeId) × Assembly)
  | [] => .ok ([], a)
  | id :: rest =>
    match a.nodes.get id with
    | .mapping _ [entry] => do
      let a ← a.startEntry entry
      let (pairs, a) ← pairsOf a rest
      pure (entry :: pairs, a)
    | _ => .error .malformed

/-- Looks at the parts of a collection. -/
def complete (a : Assembly) (id : NodeId) : Except Fault Assembly :=
  let node := a.nodes.get id
  match node.kind, node with
  | .sequence, .sequence _ items => do
    let a ← items.foldlM start a
    pure (a.put id (.list items))
  | .orderedMapping, .sequence _ items | .pairs, .sequence _ items => do
    let (pairs, a) ← a.pairsOf items
    pure (a.put id (.pairs pairs))
  | .mapping, _ => do
    let (entries, a) ← a.mappingEntries id
    pure (a.put id (.dict entries))
  | .set, _ => do
    let (entries, a) ← a.mappingEntries id
    pure (a.put id (.set (entries.map Prod.fst)))
  | _, _ => .error .malformed

/-- Looks at the parts of all collections, level by level. Every level has a node that no other one
has, so their number bounds the levels. -/
def finish : Nat → Assembly → Except Fault Assembly
  | 0, a => .ok a
  | fuel + 1, a => do
    let a ← a.waiting.reverse.foldlM complete { a with waiting := [] }
    if a.waiting.isEmpty then pure a else finish fuel a

end Assembly

/-- What a tree of nodes denotes. -/
def documentOf (tree : Node.Tree) : Except Fault Document := do
  let a ← ({ nodes := tree.nodes, items := Array.replicate tree.nodes.size none } : Assembly).start
    tree.root
  let a ← a.finish (tree.nodes.size + 1)
  pure ⟨a.items, tree.root⟩

/-- The character may stand in a document. -/
def isAllowed (c : Char) : Bool :=
  let n := c.toNat
  n == 0x9 || n == 0xA || n == 0xD || (0x20 ≤ n && n ≤ 0x7E) || n == 0x85
    || (0xA0 ≤ n && n ≤ 0xD7FF) || (0xE000 ≤ n && n ≤ 0xFFFD) || 0x10000 ≤ n

/-- A text with every line break of one or two characters as a line feed. -/
def withLineFeeds : List Char → List Char
  | '\r' :: '\n' :: cs => '\n' :: withLineFeeds cs
  | '\r' :: cs => '\n' :: withLineFeeds cs
  | c :: cs => c :: withLineFeeds cs
  | [] => []

/-- What a document denotes; one without a node is null. -/
def read (cs : List Char) : Except Fault Document :=
  let cs := withLineFeeds cs
  if !cs.all isAllowed then .error .malformed
  else do
    match ← Node.ofTokens? (tokenize cs) with
    | some tree => documentOf tree
    | none => pure ⟨#[some (.value .null)], 0⟩

/-- What is reported of a fault in a document. In what way one is malformed is not put in words. -/
def Fault.reported (f : Fault) : LoadFault :=
  match f.kind? with
  | some kind => .other kind f.message
  | none => .malformed f.message

/-- The loader of YAML documents in UTF-8. -/
def load : Loader := fun octets =>
  match Text.Utf8.decode octets with
  | .ok cs => (read cs).mapError Fault.reported
  | .error f => .error (.other .decoding f.message)

end PostQuery.Yaml
