import PostQuery.Relation

/-!
# Query arguments

The root of a tree is a conjunction that is not negated. Each of its terms is tried with one
strategy after the other, as a post meta query, as a taxonomy query and as a plain comparison, and
the first success decides where the term ends up. Terms that end up under the same key replace each
other in the order of the terms.

After each strategy a line with the unambiguous text of the term is put together for the log. The
lines are left out here, as nothing is returned of them: every value has such a text, so that none of
them can fail, except for that of an integer with more digits than are ever written.
-/

namespace PostQuery

/-- The ways to build a term of the root. -/
inductive Strategy where
  | metaQuery
  | taxonomyQuery
  | compare
  deriving DecidableEq, Inhabited

namespace Strategy

/-- The strategies in the order in which they are tried. -/
def standard : List Strategy := [.metaQuery, .taxonomyQuery, .compare]

/-- The entries that a term makes by one strategy. -/
def attempt (s : Strategy) (b : Builder) (x : Value) : Attempt Dict :=
  match s with
  | .metaQuery =>
    (b.standardRelation .postMeta x).map fun block => [(.text "meta_query", .dict block)]
  | .taxonomyQuery =>
    (b.standardRelation .taxonomy x).map fun block => [(.text "tax_query", .dict block)]
  | .compare => b.clause .compare x

end Strategy

namespace Value

/-- The value can be the root: a conjunction that is not negated. -/
def isRoot : Value → Bool
  | .expr kind _ negated => kind.kindKey == Junction.and.text && !negated
  | _ => false

/-- The value is a node of a tree. -/
def isExpr : Value → Bool
  | .expr .. => true
  | _ => false

end Value

namespace Builder

/-- The entries of a term by the first strategy that succeeds, with the refusals so far. -/
def firstSuccess (b : Builder) (x : Value) : List Strategy → List Failure → Attempt Dict
  | [], failures => b.refuseWith .noStrategy x none failures
  | s :: rest, failures =>
    match s.attempt b x with
    | .ok d => .ok d
    | .error (.refused f) => firstSuccess b x rest (failures ++ [f])
    | .error (.broken m) => .error (.broken m)

/-- The entries of one term of the root. -/
def rootTerm (b : Builder) (strategies : List Strategy) (x : Value) : Attempt Dict :=
  if x.isExpr then b.firstSuccess x strategies [] else b.refuse .rootTerm x

/-- Puts the entries of all terms into a dictionary, in order. -/
def rootTerms (b : Builder) (strategies : List Strategy) : List Value → Dict → Attempt Dict
  | [], d => .ok d
  | x :: rest, d => do
    let entries ← b.rootTerm strategies x
    rootTerms b strategies rest (d.update entries)

/-- The query arguments of a tree. -/
def arguments (b : Builder) (strategies : List Strategy) (x : Value) : Attempt Dict :=
  if x.isRoot then
    match x with
    | .expr _ terms _ => b.rootTerms strategies terms []
    | _ => b.refuse .root x
  else b.refuse .root x

end Builder

end PostQuery
