import PostQuery.Failure
import PostQuery.Value.Normal

/-!
# Looking up an operator

The kind of a condition is looked up by its normal text, trimmed and in lower case. So members of
enumerations and raw texts find the same operators, however deep a member is nested and however a
text is spelled.
-/

namespace PostQuery.Context

/-- The key by which a kind is looked up, or the value in it that has no text. -/
def key (kind : Value) : Except Value String := kind.normalText.map Value.keyForm

/-- The operator that a context has for a kind, or why it has none. -/
def resolve (ctx : Context) (kind : Value) (negated : Bool) : Except Failure Token :=
  match key kind with
  | .error v => .error (.operator kind ctx negated (some (.value v)))
  | .ok k =>
    match ctx.pair? k with
    | none => .error (.operator (.text k) ctx negated none)
    | some pair =>
      if !negated then .ok pair.plain
      else match pair.negated with
        | some token => .ok token
        | none => .error (.operator (.text k) ctx negated none)

/-- A context has an operator for a kind. -/
def supports (ctx : Context) (kind : Value) : Bool :=
  match key kind with
  | .error _ => false
  | .ok k => (ctx.pair? k).isSome

end PostQuery.Context
