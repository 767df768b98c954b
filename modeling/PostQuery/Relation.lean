import PostQuery.Clause

/-!
# Relations

A group of conditions becomes a block: its relation under `relation`, then the blocks and clauses of
its terms under 0, 1, 2 and so on, in the order of the terms. Groups nest as blocks, and every
comparison takes the shape that the block's mode stands for, or whatever else is made of it. The
first term that does not build decides the refusal of the whole group.
-/

namespace PostQuery

namespace Mode

/-- The mode that a value selects: a mode itself, or a text in any case. -/
def ofValue (v : Value) : Except Misuse Mode :=
  match v with
  | .mode m => .ok m
  | v =>
    match Mode.ofText? (Text.lower v.display) with
    | some m => .ok m
    | none => .error (.unknownMode v)

end Mode

/-- Which shape comparisons take in each mode; a mode that is not listed has none. -/
abbrev Shapes := List (Mode × Shape)

namespace Shapes

/-- Post meta clauses for the one mode, taxonomy clauses for the other. -/
def standard : Shapes := [(.postMeta, .postMeta), (.taxonomy, .taxonomy)]

/-- The shape listed last for a mode. -/
def shape? (s : Shapes) (m : Mode) : Option Shape :=
  (s.reverse.find? fun e => e.1 == m).map Prod.snd

end Shapes

namespace Builder

/-- A block: the relation, then the parts under their places. -/
def block (token : Token) (parts : List Dict) : Dict :=
  (.text "relation", .text token.text) ::
    parts.zipIdx.map fun p => (.int p.2, .dict p.1)

/-- The clause of a comparison in the shape for the mode, if there is one. -/
def leaf (b : Builder) (shapes : Shapes) (mode : Mode) (x : Value) : Attempt Dict :=
  match shapes.shape? mode with
  | some shape => b.clause shape x
  | none => .error (.broken (.noLeafBuilder mode))

mutual

/-- The block of a group, given what a comparison in it makes. -/
def relation (b : Builder) (leaf : Value → Attempt Dict) : Value → Attempt Dict
  | .expr kind terms negated =>
    let x := Value.expr kind terms negated
    match b.resolve .relation kind negated with
    | .error obstacle => b.within .relation x (.error obstacle)
    | .ok token => b.within .relation x ((relationTerms b leaf terms).map (block token))
  | x => b.refuse .relation x

/-- The blocks and clauses of the terms of a group, up to the first that does not build. -/
def relationTerms (b : Builder) (leaf : Value → Attempt Dict) :
    List Value → Attempt (List Dict)
  | [] => .ok []
  | term :: rest => do
    let part ← match term with
      | .expr kind terms negated =>
        if kind.isJunctionKind then relation b leaf (.expr kind terms negated)
        else leaf (.expr kind terms negated)
      | x => b.refuse .relationTerm x
    let parts ← relationTerms b leaf rest
    pure (part :: parts)

end

/-- The block of a group whose comparisons make the clauses of a mode. -/
def standardRelation (b : Builder) (mode : Mode) (x : Value) : Attempt Dict :=
  b.relation (b.leaf .standard mode) x

end Builder

end PostQuery
