import PostQuery.Value.Dict

/-!
# Values spelled out

Settings are handed out with every term and node in them replaced by the dictionary of its parts, at
any depth of lists, tuples and dictionaries. A term that stood as a key cannot be handed out, since
its parts cannot be a key, and neither can a value that holds itself.
-/

namespace PostQuery.Value

/-- The value may be a key. -/
def asKey (v : Value) : Except Misuse Value :=
  match v.keyFault? with
  | some part => .error (.notKey part)
  | none => .ok v

mutual

/-- A value with every term and node replaced by the dictionary of its parts. -/
def spelledOut : Value → Except Misuse Value
  | .list items => (spelledOutAll items).map .list
  | .tuple items => (spelledOutAll items).map .tuple
  | .dict entries => (spelledOutEntries entries).map .dict
  | .again .. => .error (.endless false)
  | .literal v => do
    let v ← spelledOut v
    pure (.dict [(.text "value", v)])
  | .variable k => do
    let k ← spelledOut k
    pure (.dict [(.text "key", k)])
  | .field e n => do
    let e ← spelledOut e
    let n ← spelledOut n
    pure (.dict [(.text "entity", e), (.text "field", n)])
  | .expr k ts negated => do
    let k ← spelledOut k
    let ts ← spelledOutAll ts
    pure (.dict [(.text "type", k), (.text "terms", .tuple ts), (.text "negated", .bool negated)])
  | v => .ok v

/-- All values of a list spelled out. -/
def spelledOutAll : List Value → Except Misuse (List Value)
  | [] => .ok []
  | v :: vs => do
    let v ← spelledOut v
    let vs ← spelledOutAll vs
    pure (v :: vs)

/-- The entries of a dictionary spelled out; the keys must still do as keys. -/
def spelledOutEntries : List (Value × Value) → Except Misuse (List (Value × Value))
  | [] => .ok []
  | (k, v) :: es => do
    let k ← spelledOut k
    let v ← spelledOut v
    let k ← k.asKey
    let es ← spelledOutEntries es
    pure ((k, v) :: es)

end

end PostQuery.Value
