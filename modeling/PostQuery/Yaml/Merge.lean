import PostQuery.Yaml.Node

/-!
# Merge keys

A mapping with a merge key takes over the entries of another mapping, or of several; its own entries
stand behind them, so that they decide, and of several mappings the first one stands last. What a
mapping takes over is settled first, so a chain of merges is followed to its end. A merge key is
taken away before it is followed; so a mapping that merges itself, by whatever detour, ends up with
its own entries once more. A key that marks a default is an ordinary text from then on.
-/

namespace PostQuery.Yaml.Nodes

/-- The entries of a node. -/
def entriesOf (nodes : Nodes) (id : NodeId) : List (NodeId × NodeId) := (nodes.get id).entries

/-- How many entries all nodes have. -/
def entryCount (nodes : Nodes) : Nat :=
  (nodes.toList.map fun n => n.entries.length).foldr (· + ·) 0

/-- A mapping with other entries. -/
def withEntries (nodes : Nodes) (id : NodeId) (entries : List (NodeId × NodeId)) : Nodes :=
  nodes.setIfInBounds id (.mapping (nodes.get id).kind entries)

/-- The value of the first merge key among entries, and the entries without it. -/
def firstMerge? (nodes : Nodes) :
    List (NodeId × NodeId) → Option (NodeId × List (NodeId × NodeId))
  | [] => none
  | (key, value) :: rest =>
    if (nodes.get key).kind = .merge then some (value, rest)
    else (firstMerge? nodes rest).map fun (found, others) => (found, (key, value) :: others)

/-- A key that marks a default as an ordinary text. -/
def plainKey (nodes : Nodes) (key : NodeId) : Nodes :=
  let node := nodes.get key
  if node.kind = .default then nodes.setIfInBounds key (node.withKind .text) else nodes

/-- A mapping without merge keys, with the entries that it takes over put in front. -/
def settled (nodes : Nodes) (id : NodeId) (taken : List (NodeId × NodeId)) : Nodes :=
  let own := nodes.entriesOf id
  let nodes := own.foldl (fun ns e => ns.plainKey e.1) nodes
  if taken.isEmpty then nodes else nodes.withEntries id (taken ++ own)

/-- The nodes that the value of a merge key names: a mapping, or those in a sequence. -/
def sourcesOf (nodes : Nodes) (source : NodeId) : Except Fault (List NodeId) :=
  match nodes.get source with
  | .mapping .. => .ok [source]
  | .sequence _ items => .ok items
  | .scalar .. => .error .malformed

mutual

/-- Follows the merge keys of a mapping that has taken over some entries already. Every merge key is
followed once, so a bound on their number bounds the steps. -/
def mergedFrom (fuel : Nat) (nodes : Nodes) (id : NodeId) (taken : List (NodeId × NodeId)) :
    Except Fault Nodes :=
  match fuel, nodes.firstMerge? (nodes.entriesOf id) with
  | _, none => .ok (nodes.settled id taken)
  | 0, some _ => .error .endless
  | fuel + 1, some (source, others) => do
    let nodes := nodes.withEntries id others
    let sources ← nodes.sourcesOf source
    let (more, nodes) ← takenFrom fuel nodes sources
    mergedFrom fuel nodes id (taken ++ more)
termination_by (fuel, 0)

/-- The entries that several mappings offer, those of the first one last. -/
def takenFrom (fuel : Nat) (nodes : Nodes) (sources : List NodeId) :
    Except Fault (List (NodeId × NodeId) × Nodes) :=
  match sources with
  | [] => .ok ([], nodes)
  | source :: rest =>
    match nodes.get source with
    | .mapping .. => do
      let nodes ← mergedFrom fuel nodes source []
      let entries := nodes.entriesOf source
      let (later, nodes) ← takenFrom fuel nodes rest
      pure (later ++ entries, nodes)
    | _ => .error .malformed
termination_by (fuel, sources.length + 1)

end

/-- The nodes with the merge keys of a mapping followed. -/
def merged (nodes : Nodes) (id : NodeId) : Except Fault Nodes :=
  nodes.mergedFrom (nodes.entryCount + 1) id []

end PostQuery.Yaml.Nodes
