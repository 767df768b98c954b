import PostQuery.Arguments
import PostQuery.Filter

/-!
# Sessions

A session keeps a reader of filters, a builder with its strategies and a stack of trees, the latest
first. Trees are read or pushed, grouped, compared and built with whatever builder is in use. A step
that is refused leaves the session as it was.
-/

namespace PostQuery

structure Session where
  reader : Reader := {}
  builder : Builder := {}
  strategies : List Strategy := Strategy.standard
  /-- The trees, the latest first. -/
  trees : List Value := []

namespace Session

/-- The session with a tree on top. -/
def push (s : Session) (tree : Value) : Session := { s with trees := tree :: s.trees }

/-- Reads a filter and pushes its tree. -/
def read (s : Session) (filters : Value) : Except Filter.Fault Value × Session :=
  match s.reader.read filters with
  | (.ok tree, reader) => (.ok tree, { s with reader }.push tree)
  | (.error fault, reader) => (.error fault, { s with reader })

/-- Replaces the latest trees, at most as many as there are, by a node over them in their order. -/
def group (s : Session) (kind : Value) (count : Nat) (negated : Bool) : Value × Session :=
  let tree := Value.expr kind (s.trees.take count).reverse negated
  (tree, { s with trees := tree :: s.trees.drop count })

/-- Builds the latest tree. -/
def build? (s : Session) : Option (Attempt Dict) :=
  s.trees.head?.map (s.builder.arguments s.strategies)

/-- Tells whether the latest tree can be the root of query arguments. -/
def isRoot? (s : Session) : Option Bool := s.trees.head?.map Value.isRoot

/-- Tells whether the two latest trees are equal. -/
def equal? (s : Session) : Option (Except Misuse Bool) :=
  match s.trees with
  | a :: b :: _ => some (a.equal b)
  | _ => none

end Session

end PostQuery
