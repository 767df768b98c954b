import PostQuery.Proofs.Tree.Meaning

/-!
# The leaves of a tree

The comparisons of a tree, from left to right. A leaf is negated as often as there is a negated node
on the way to it, and for whoever negates the tree or takes a negation out of it only the parity of
that number is worth keeping: the opposite of a tree is made at the first node that is no group of
one, so the flags move about, and what stays is one more for every leaf.
-/

namespace PostQuery

/-- A comparison of a tree, with the number of negated nodes from the root down to it. -/
structure Leaf where
  kind : Value
  terms : List Value
  negations : Nat

/-- The leaf, with no more of its negations than whether they are odd. -/
def Leaf.signed (l : Leaf) : Value × List Value × Bool := (l.kind, l.terms, l.negations.bodd)

mutual

/-- The leaves of a tree from left to right, below so many negated nodes. -/
def leaves : Value → Nat → List Leaf
  | .expr kind terms negated, above =>
    if kind.isJunctionKind then leavesOfAll terms (above + negated.toNat)
    else [⟨kind, terms, above + negated.toNat⟩]
  | _, _ => []

def leavesOfAll : List Value → Nat → List Leaf
  | [], _ => []
  | x :: xs, above => leaves x above ++ leavesOfAll xs above

end

theorem leavesOfAll_append (xs ys : List Value) (above : Nat) :
    leavesOfAll (xs ++ ys) above = leavesOfAll xs above ++ leavesOfAll ys above := by
  induction xs with
  | nil => rfl
  | cons x xs ih => rw [List.cons_append, leavesOfAll, leavesOfAll, ih, List.append_assoc]

theorem leavesOfAll_singleton (x : Value) (above : Nat) :
    leavesOfAll [x] above = leaves x above := by
  rw [leavesOfAll, leavesOfAll, List.append_nil]

theorem leaves_group (j : Junction) (xs : List Value) (above : Nat) :
    leaves (.expr (.junction j) xs false) above = leavesOfAll xs above := by
  rw [leaves, if_pos (Value.isJunctionKind_junction j), Bool.toNat_false, Nat.add_zero]

theorem leavesOfAll_eq_nil {xs : List Value} {above : Nat} :
    leavesOfAll xs above = [] ↔ ∀ x ∈ xs, leaves x above = [] := by
  induction xs with
  | nil => simp [leavesOfAll]
  | cons x xs ih => rw [leavesOfAll, List.append_eq_nil_iff, ih, List.forall_mem_cons]

/-! ## Parities

Only the parity of what is above a leaf shows in it. -/

theorem bodd_add_toNat (n : Nat) (negated : Bool) :
    (n + negated.toNat).bodd = (n.bodd ^^ negated) := by
  rw [Nat.bodd_add]
  cases negated <;> rfl

mutual

theorem leaves_parity (x : Value) {m n : Nat} (h : m.bodd = n.bodd) :
    (leaves x m).map Leaf.signed = (leaves x n).map Leaf.signed := by
  cases x with
  | expr kind terms negated =>
      have hbelow : (m + negated.toNat).bodd = (n + negated.toNat).bodd := by
        rw [bodd_add_toNat, bodd_add_toNat, h]
      rw [leaves, leaves]
      split
      · exact leavesOfAll_parity terms hbelow
      · rw [List.map_singleton, List.map_singleton, Leaf.signed, Leaf.signed, hbelow]
  | _ => rfl

theorem leavesOfAll_parity (xs : List Value) {m n : Nat} (h : m.bodd = n.bodd) :
    (leavesOfAll xs m).map Leaf.signed = (leavesOfAll xs n).map Leaf.signed := by
  match xs with
  | [] => rfl
  | x :: xs =>
      rw [leavesOfAll, leavesOfAll, List.map_append, List.map_append, leaves_parity x h,
        leavesOfAll_parity xs h]

end

namespace Filter

/-- The opposite of a tree has the leaves of the tree, each of them negated once more. -/
theorem leaves_negate (x : Value) (above : Nat) :
    (leaves (negate x) above).map Leaf.signed = (leaves x (above + 1)).map Leaf.signed := by
  have hflip : ∀ kind terms negated above,
      (leaves (.expr kind terms (!negated)) above).map Leaf.signed
        = (leaves (.expr kind terms negated) (above + 1)).map Leaf.signed := by
    intro kind terms negated above
    have hbelow : (above + (!negated).toNat).bodd = (above + 1 + negated.toNat).bodd := by
      rw [bodd_add_toNat, bodd_add_toNat, Nat.bodd_succ, Bool.xor_not, Bool.not_xor]
    rw [leaves, leaves]
    split
    · exact leavesOfAll_parity terms hbelow
    · rw [List.map_singleton, List.map_singleton, Leaf.signed, Leaf.signed, hbelow]
  induction x using negate.induct generalizing above with
  | case1 kind k ts n negated hkind ih =>
      have hcomm : above + 1 + negated.toNat = above + negated.toNat + 1 := by
        omega
      rw [negate, if_pos hkind, leaves, if_pos hkind, leaves, if_pos hkind, leavesOfAll_singleton,
        leavesOfAll_singleton, hcomm]
      exact ih _
  | case2 kind k ts n negated hkind =>
      rw [negate, if_neg hkind]
      exact hflip _ _ _ _
  | case3 kind terms negated hmany =>
      rw [negate.eq_2 _ _ _ hmany]
      exact hflip _ _ _ _
  | case4 v hone hany =>
      cases v with
      | expr kind terms negated => exact absurd rfl (hany kind terms negated)
      | _ => rfl

theorem leaves_grouped (xs : List Value) (above : Nat) :
    leaves (grouped xs) above = leavesOfAll xs above := by
  match xs with
  | [] => exact leaves_group .and [] above
  | [x] => rw [grouped, leavesOfAll_singleton]
  | x :: y :: rest => exact leaves_group .and (x :: y :: rest) above

end Filter

end PostQuery
