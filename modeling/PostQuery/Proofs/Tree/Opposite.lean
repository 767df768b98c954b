import PostQuery.Proofs.Tree.Meaning

/-!
# The opposite of a tree

A tree is negated at one node only. Groups of a single term are gone through, whatever flags they
have, and the first node that is no such group has its flag turned around. So a tree and its
opposite are one and the same surrounding with a node in it and with that node negated, and all that
there is to say about them can be said of the surrounding: it passes a truth value on or turns it
around, and does so for the node and for the negated node alike.

The truth values of the comparisons are given by place here, so that two comparisons that look the
same may differ.
-/

namespace PostQuery

namespace Value

mutual

/-- The truth value of a tree that stands at a place, given that of every comparison by its place,
its kind and its terms. A place is the way down from the root by the indexes of terms. -/
def holdsAt (leaf : List Nat → Value → List Value → Bool) (place : List Nat) : Value → Bool
  | .expr kind terms negated =>
    negated ^^
      match kind.junction? with
      | some j => j.joins (holdEachFrom leaf place 0 terms)
      | none => leaf place kind terms
  | _ => false

def holdEachFrom (leaf : List Nat → Value → List Value → Bool) (place : List Nat) :
    Nat → List Value → List Bool
  | _, [] => []
  | i, x :: xs => holdsAt leaf (place ++ [i]) x :: holdEachFrom leaf place (i + 1) xs

end

/-- The value is a group of exactly one term. -/
def isSoleGroup : Value → Bool
  | .expr kind [_] _ => kind.isJunctionKind
  | _ => false

/-- A tree inside groups of one term, the outermost one first. -/
def wrapped : List (Junction × Bool) → Value → Value
  | [], x => x
  | (j, negated) :: outer, x => .expr (.junction j) [wrapped outer x] negated

/-- The flags of the groups around a tree turn its truth value around an odd number of times. -/
def isTurned (outer : List (Junction × Bool)) : Bool := (outer.map Prod.snd).foldr xor false

theorem isTurned_cons (j : Junction) (negated : Bool) (outer : List (Junction × Bool)) :
    isTurned ((j, negated) :: outer) = (negated ^^ isTurned outer) := rfl

theorem wrapped_expr (outer : List (Junction × Bool)) (kind : Value) (terms : List Value)
    (negated : Bool) : ∃ k ts n, wrapped outer (.expr kind terms negated) = .expr k ts n := by
  cases outer with
  | nil => exact ⟨kind, terms, negated, rfl⟩
  | cons w outer => exact ⟨_, _, _, rfl⟩

theorem holdsAt_wrapped (leaf : List Nat → Value → List Value → Bool) (place : List Nat)
    (outer : List (Junction × Bool)) (x : Value) :
    holdsAt leaf place (wrapped outer x)
      = (isTurned outer ^^ holdsAt leaf (place ++ List.replicate outer.length 0) x) := by
  induction outer generalizing place with
  | nil => simp [wrapped, isTurned]
  | cons w outer ih =>
      obtain ⟨j, negated⟩ := w
      rw [wrapped, holdsAt, junction?_junction]
      simp only [holdEachFrom, Junction.joins_singleton]
      rw [ih, isTurned_cons, Bool.xor_assoc, List.append_assoc, List.singleton_append,
        List.length_cons, List.replicate_succ]

theorem holdsAt_flip (leaf : List Nat → Value → List Value → Bool) (place : List Nat)
    (kind : Value) (terms : List Value) (negated : Bool) :
    holdsAt leaf place (.expr kind terms (!negated))
      = !holdsAt leaf place (.expr kind terms negated) := by
  rw [holdsAt, holdsAt, Bool.not_xor]

/-- Whether a node is a group of one does not depend on its flag. -/
theorem isSoleGroup_flip {kind : Value} {terms : List Value} {negated : Bool}
    (h : (Value.expr kind terms negated).isSoleGroup = false) :
    (Value.expr kind terms (!negated)).isSoleGroup = false := by
  rcases terms with _ | ⟨x, _ | ⟨y, rest⟩⟩
  · rfl
  · exact h
  · rfl

end Value

namespace Filter

open Value

theorem negate_of_not_isSoleGroup {kind : Value} {terms : List Value} {negated : Bool}
    (h : (Value.expr kind terms negated).isSoleGroup = false) :
    negate (.expr kind terms negated) = .expr kind terms (!negated) := by
  rw [negate.eq_def]
  split
  · next k kind' ts n negated' heq =>
      cases heq
      rw [isSoleGroup] at h
      rw [h, if_neg Bool.false_ne_true]
  · next heq =>
      cases heq
      rfl
  · next hany => exact absurd rfl (hany _ _ _)

theorem negate_wrapped (outer : List (Junction × Bool)) {kind : Value} {terms : List Value}
    {negated : Bool} (h : (Value.expr kind terms negated).isSoleGroup = false) :
    negate (wrapped outer (.expr kind terms negated))
      = wrapped outer (.expr kind terms (!negated)) := by
  induction outer with
  | nil => exact negate_of_not_isSoleGroup h
  | cons w outer ih =>
      obtain ⟨k, ts, n, hinner⟩ := wrapped_expr outer kind terms negated
      rw [wrapped, wrapped, ← ih, hinner, negate, if_pos (isJunctionKind_junction w.1)]

theorem exists_expr_of_isTree {x : Value} (h : isTree x = true) :
    ∃ kind terms negated, x = .expr kind terms negated := by
  cases x with
  | expr kind terms negated => exact ⟨kind, terms, negated, rfl⟩
  | _ => cases h

/-- Every tree is groups of one around a node that is none. -/
theorem exists_wrapped {x : Value} (h : isTree x = true) :
    ∃ outer kind terms negated,
      x = wrapped outer (.expr kind terms negated)
        ∧ (Value.expr kind terms negated).isSoleGroup = false := by
  -- By the way that `negate` goes; only its first case goes on.
  induction x using negate.induct with
  | case1 kind k ts n negated hkind ih =>
      cases kind with
      | junction j =>
          rw [isTree, areTrees_iff] at h
          obtain ⟨outer, kind', terms', negated', hinner, hmany⟩ :=
            ih (h _ (List.mem_singleton_self _))
          exact ⟨(j, negated) :: outer, kind', terms', negated', by rw [wrapped, hinner], hmany⟩
      | comparison c =>
          rw [isJunctionKind_comparison] at hkind
          cases hkind
      | _ => cases h
  | case2 kind k ts n negated hkind =>
      exact ⟨[], kind, _, negated, rfl, by rwa [isSoleGroup, Bool.eq_false_iff]⟩
  | case3 kind terms negated hmany =>
      refine ⟨[], kind, terms, negated, rfl, ?_⟩
      rw [isSoleGroup.eq_def]
      split
      · next kind' y negated' heq =>
          cases heq
          cases kind with
          | junction j =>
              -- Such a term would be a tree, and a tree is a node.
              rw [isTree, areTrees_iff] at h
              obtain ⟨k, ts, n, rfl⟩ := exists_expr_of_isTree (h y (List.mem_singleton_self y))
              exact absurd rfl (hmany k ts n)
          | comparison c => exact isJunctionKind_comparison c
          | _ => cases h
      · rfl
  | case4 v hone hany =>
      cases v with
      | expr kind terms negated => exact absurd rfl (hany kind terms negated)
      | _ => cases h

/-- The opposite of a tree is its complement, whatever its comparisons mean and even where two of
them that look the same differ. It is taken back by negating once more, and it is the tree with one
flag turned: that of the first node from the root that is no group of one. -/
theorem negate_complements (x : Value) (h : isTree x = true) :
    (∀ leaf, holdsAt leaf [] (negate x) = !holdsAt leaf [] x)
      ∧ negate (negate x) = x
      ∧ ∃ outer kind terms negated,
          x = wrapped outer (.expr kind terms negated)
            ∧ (Value.expr kind terms negated).isSoleGroup = false
            ∧ negate x = wrapped outer (.expr kind terms (!negated)) := by
  obtain ⟨outer, kind, terms, negated, rfl, hmany⟩ := exists_wrapped h
  have hturned := negate_wrapped outer hmany
  refine ⟨fun leaf => ?_, ?_, outer, kind, terms, negated, rfl, hmany, hturned⟩
  · rw [hturned, holdsAt_wrapped, holdsAt_wrapped, holdsAt_flip, Bool.xor_not]
  · rw [hturned, negate_wrapped outer (isSoleGroup_flip hmany), Bool.not_not]

/-- A group of two inside two groups of one, the outer of them negated: the group of two is the node
that is turned. -/
theorem negate_complements_of_nested :
    let leaf := Value.expr (.comparison .equal) [.variable (.text "a"), .literal (.int 1)] false
    let x := Value.expr (.junction .or)
      [.expr (.junction .and) [.expr (.junction .or) [leaf, leaf] false] false] true
    isTree x = true
      ∧ negate x = .expr (.junction .or)
          [.expr (.junction .and) [.expr (.junction .or) [leaf, leaf] true] false] true
      ∧ negate (negate x) = x := by
  intro leaf x
  have hx : isTree x = true := rfl
  exact ⟨hx, rfl, (negate_complements x hx).2.1⟩

end Filter

end PostQuery
