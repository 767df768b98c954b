import PostQuery.Misuse
import PostQuery.Value.Dict

/-!
# Going through a value

The items of a value are those of a collection, the keys of a dictionary, the characters of a text
or the numbers of some bytes. A dictionary can be made of any value whose items are pairs; a value
that counts as false makes the empty one.
-/

namespace PostQuery.Value

/-- The items of a value, if it can be gone through. -/
def items? : Value → Option (List Value)
  | .list items | .tuple items | .set items | .fixedSet items => some items
  | .dict entries => some (entries.map Prod.fst)
  | .text s => some (s.toList.map fun c => .text (String.singleton c))
  | .bytes octets | .buffer octets => some (octets.map fun b => .int b.toNat)
  | _ => none

/-- The items of a value. -/
def items (v : Value) : Except Misuse (List Value) :=
  match v.items? with
  | some items => .ok items
  | none => .error (.notIterable v)

/-- The entry that the item at an index makes: its two items, the first of which must do as a
key. -/
def entryOf (index : Nat) (item : Value) : Except Misuse (Value × Value) :=
  match item.items? with
  | none => .error (.entryNotSequence index)
  | some [k, v] =>
    match k.keyFault? with
    | some part => .error (.notKey part)
    | none => .ok (k, v)
  | some parts => .error (.entryLength index parts.length)

/-- The entries that a list of items makes, counted from an index. -/
def entriesOf : Nat → List Value → Except Misuse (List (Value × Value))
  | _, [] => .ok []
  | index, item :: rest => do
    let entry ← entryOf index item
    let entries ← entriesOf (index + 1) rest
    pure (entry :: entries)

/-- The dictionary a value makes. -/
def toDict (v : Value) : Except Misuse Dict :=
  if !v.truthy then .ok []
  else match v with
    | .dict entries => .ok entries
    | v => do
      let items ← v.items
      let entries ← entriesOf 0 items
      pure (Dict.ofEntries entries)

end PostQuery.Value
