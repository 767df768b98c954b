import PostQuery.Misuse

/-!
# Members of a vocabulary by value

Any value can be looked for among the written values of a vocabulary, and only a text is ever found
there. What cannot be a key cannot be looked for either, apart from a set, which is taken as the
fixed set of its items.
-/

namespace PostQuery

namespace Value

/-- The text that a value is looked for by, if it is one. -/
def lookupText (v : Value) : Except Misuse (Option String) :=
  match v with
  | .text s => .ok (some s)
  | .set _ => .ok none
  | v =>
    match v.keyFault? with
    | some part => .error (.notKey part)
    | none => .ok none

end Value

/-- The junction whose written value is the given one. -/
def Junction.ofValue (v : Value) : Except Misuse (Option Junction) :=
  v.lookupText.map fun s => s.bind Junction.ofText?

/-- The comparison whose written value is the given one. -/
def Comparison.ofValue (v : Value) : Except Misuse (Option Comparison) :=
  v.lookupText.map fun s => s.bind Comparison.ofText?

end PostQuery
