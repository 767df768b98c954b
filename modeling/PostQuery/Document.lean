import PostQuery.Misuse
import PostQuery.Value.Slots

/-!
# Documents and loaders

A document is what is found in a file of settings: a graph of items, each of them a value without
parts, or a list, a dictionary or a set whose parts are items again. Items may be shared and may hold
themselves; `Document.value` is the view of an item as a value, in which an item inside itself is
shown as such.

A loader makes a document of the octets of a file, or ends in one of three ways: the octets cannot be
read at all, what is read is not well formed, or anything else goes wrong. How files are written is
up to the loader.
-/

namespace PostQuery

/-- The number of a node of a document. -/
abbrev NodeId := Nat

/-- What a node denotes, with its parts by their nodes. -/
inductive Item where
  | value (v : Value)
  | list (items : List NodeId)
  | dict (entries : List (Value × NodeId))
  | set (keys : List Value)
  /-- A list of pairs. -/
  | pairs (pairs : List (NodeId × NodeId))
  deriving Inhabited

/-- What the nodes of a document denote, as far as that is known, and the one that all others are
inside. -/
structure Document where
  items : Array (Option Item)
  root : NodeId

namespace Document

/-- What a node denotes. -/
def item? (d : Document) (id : NodeId) : Option Item := d.items.getD id none

/-- The item counts as true. -/
def truthy (d : Document) (id : NodeId) : Bool :=
  match d.item? id with
  | some (.value v) => v.truthy
  | some (.list items) => !items.isEmpty
  | some (.dict entries) => !entries.isEmpty
  | some (.set keys) => !keys.isEmpty
  | some (.pairs pairs) => !pairs.isEmpty
  | none => false

/-- The item as a dictionary; one that counts as false is empty. -/
def entries? (d : Document) (id : NodeId) : Option (List (Value × NodeId)) :=
  match d.item? id with
  | some (.dict entries) => some entries
  | _ => if d.truthy id then none else some []

/-- The item as a value, inside the given nodes, of which none is gone into again. The number bounds
the depth. -/
def valueWithin (d : Document) : Nat → List NodeId → NodeId → Value
  | 0, _, _ => .null
  | depth + 1, outer, id =>
    let part := valueWithin d depth (id :: outer)
    match d.item? id with
    | none => .null
    | some (.value v) => v
    | some (.set keys) => .set (Value.inSlots keys.length keys)
    | some (.list items) =>
      if outer.contains id then .again id false else .list (items.map part)
    | some (.pairs pairs) =>
      if outer.contains id then .again id false
      else .list (pairs.map fun e => .tuple [part e.1, part e.2])
    | some (.dict entries) =>
      if outer.contains id then .again id true
      else .dict (entries.map fun e => (e.1, part e.2))

/-- The item as a value. No path is longer than there are nodes. -/
def value (d : Document) (id : NodeId) : Value := d.valueWithin (d.items.size + 1) [] id

end Document

/-- Why a loader gives no document, with what it reports. -/
inductive LoadFault where
  | unreadable (reason : String)
  | malformed (reason : String)
  | other (kind : MisuseKind) (reason : String)

/-- What is made of the octets of a file. -/
abbrev Loader := List UInt8 → Except LoadFault Document

end PostQuery
