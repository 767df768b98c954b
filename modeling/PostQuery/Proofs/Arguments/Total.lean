import PostQuery.Proofs.Arguments.Plain
import PostQuery.Proofs.Relation.Answers

/-!
# Arguments, or a refusal

Whatever a builder is given, it makes arguments of it or says why it does not. What is wrong with a
term is found out while it is tried with one strategy, and the next strategy is tried all the same;
it shows only in the refusal after the last one, which carries what each of them found. So what a
strategy does has to end in a refusal whatever it is that goes wrong, and a break would keep the
other strategies from being tried.

What may break is the same as for blocks, and a variable whose key cannot be one. Settings are not
made to name their entities by texts, so that no entity of a tree would break: with a number for the
name, one that signals does.
-/

namespace PostQuery

variable {b : Builder} {x : Value} {terms : List Value}

/-- Every variable of the tree goes by a text. -/
def HasTextKeys (x : Value) : Prop := ∀ key, IsTermOf (.variable key) x → ∃ s, key = .text s

/-- The tree breaks no builder with parts of its own and these settings: its variables go by texts,
and its entities can be compared with those of either mode. -/
structure IsHarmless (s : Settings) (x : Value) : Prop where
  keys : HasTextKeys x
  entities : ∀ mode, HasComparable s mode x

theorem IsHarmless.of_mem {s : Settings} {kind : Value} {negated : Bool}
    (h : IsHarmless s (.expr kind terms negated)) (hx : x ∈ terms) : IsHarmless s x :=
  ⟨fun key hkey => h.keys key (.deeper hx hkey), fun mode => (h.entities mode).of_mem hx⟩

namespace Builder

end Builder

end PostQuery
