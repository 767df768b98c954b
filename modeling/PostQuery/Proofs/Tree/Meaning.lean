import Mathlib
import PostQuery.Filter
import PostQuery.Operator

/-!
# What a tree means

A tree combines the truth values of its comparisons: a conjunction holds if all its terms do, a
disjunction if some term does, and a negated node holds where it otherwise would not. What a single
comparison means is left open here. It is a parameter, so that the same evaluator gives the meaning
of the trees that filters are read into and of those that are compiled into blocks.

The kind of a node is taken for what it is spelled as, by the key under which operators are looked
up, so members of the vocabularies and raw texts mean the same.
-/

namespace PostQuery

/-- The truth value of a group, given those of its terms. -/
def Junction.joins : Junction → List Bool → Bool
  | .and, bs => bs.all id
  | .or, bs => bs.any id

/-- The truth value of a group of two. -/
def Junction.combine : Junction → Bool → Bool → Bool
  | .and => (· && ·)
  | .or => (· || ·)

theorem Junction.combine_self (j : Junction) (b : Bool) : j.combine b b = b := by
  cases j <;> cases b <;> rfl

/-- Next to an empty group, nothing is changed. -/
theorem Junction.combine_unit (j : Junction) (b : Bool) : j.combine b (j.joins []) = b := by
  cases j <;> cases b <;> rfl

theorem Junction.unit_combine (j : Junction) (b : Bool) : j.combine (j.joins []) b = b := by
  cases j <;> cases b <;> rfl

theorem Junction.joins_cons (j : Junction) (b : Bool) (bs : List Bool) :
    j.joins (b :: bs) = j.combine b (j.joins bs) := by
  cases j <;> simp [joins, combine]

theorem Junction.joins_singleton (j : Junction) (b : Bool) : j.joins [b] = b := by
  cases j <;> simp [joins]

/-- No text is the written value of both a comparison and a junction. -/
theorem Junction.ofText?_eq_none {k : String} {c : Comparison}
    (h : Comparison.ofText? k = some c) : Junction.ofText? k = none := by
  have hc : c.text = k := by
    rw [Comparison.ofText?] at h
    exact eq_of_beq (List.find?_some (p := fun c : Comparison => c.text == k) h)
  rw [← hc]
  cases c <;> decide

namespace Value

/-- The junction that a kind is spelled as. -/
def junction? (kind : Value) : Option Junction :=
  match Context.key kind with
  | .ok k => Junction.ofText? k
  | .error _ => none

/-- The comparison that a kind is spelled as. -/
def comparison? (kind : Value) : Option Comparison :=
  match Context.key kind with
  | .ok k => Comparison.ofText? k
  | .error _ => none

theorem junction?_junction (j : Junction) : (Value.junction j).junction? = some j := by
  cases j <;> rfl

theorem junction?_comparison (c : Comparison) : (Value.comparison c).junction? = none := by
  cases c <;> rfl

/-- What is spelled as a comparison is not spelled as a junction. -/
theorem junction?_eq_none {kind : Value} {c : Comparison} (h : kind.comparison? = some c) :
    kind.junction? = none := by
  rw [comparison?] at h
  rw [junction?]
  split at h
  · exact Junction.ofText?_eq_none h
  · cases h

theorem isJunctionKind_junction (j : Junction) : (Value.junction j).isJunctionKind = true := by
  cases j <;> rfl

theorem isJunctionKind_comparison (c : Comparison) :
    (Value.comparison c).isJunctionKind = false := by
  cases c <;> rfl

mutual

/-- The truth value of a tree, given that of a comparison by its kind and its terms. -/
def holds (leaf : Value → List Value → Bool) : Value → Bool
  | .expr kind terms negated =>
    negated ^^
      match kind.junction? with
      | some j => j.joins (holdEach leaf terms)
      | none => leaf kind terms
  | _ => false

def holdEach (leaf : Value → List Value → Bool) : List Value → List Bool
  | [] => []
  | x :: xs => holds leaf x :: holdEach leaf xs

end

theorem holdEach_eq_map (leaf : Value → List Value → Bool) (xs : List Value) :
    holdEach leaf xs = xs.map (holds leaf) := by
  induction xs with
  | nil => rfl
  | cons x xs ih => rw [holdEach, ih, List.map_cons]

theorem holds_group (leaf : Value → List Value → Bool) (j : Junction) (xs : List Value)
    (negated : Bool) :
    holds leaf (.expr (.junction j) xs negated) = (negated ^^ j.joins (xs.map (holds leaf))) := by
  rw [holds, junction?_junction, holdEach_eq_map]

theorem holds_conjunction (leaf : Value → List Value → Bool) (xs : List Value) :
    holds leaf (.expr (.junction .and) xs false) = xs.all (holds leaf) := by
  rw [holds_group, Bool.false_xor, Junction.joins, List.all_map, Function.id_comp]

theorem holds_comparison (leaf : Value → List Value → Bool) (c : Comparison) (terms : List Value)
    (negated : Bool) :
    holds leaf (.expr (.comparison c) terms negated)
      = (negated ^^ leaf (.comparison c) terms) := by
  rw [holds, junction?_comparison]

mutual

/-- The value is a tree whose kinds are members of the vocabularies, with trees for the terms of its
groups. -/
def isTree : Value → Bool
  | .expr (.junction _) terms _ => areTrees terms
  | .expr (.comparison _) _ _ => true
  | _ => false

def areTrees : List Value → Bool
  | [] => true
  | x :: xs => isTree x && areTrees xs

end

theorem areTrees_iff {xs : List Value} : areTrees xs = true ↔ ∀ x ∈ xs, isTree x = true := by
  induction xs with
  | nil => simp [areTrees]
  | cons x xs ih => simp [areTrees, ih]

end Value

/-! ## Negation

The opposite of a tree is not made at its root. It is passed down through groups of one term, each
of which has the truth value of its term, and flips the first node that is no such group. -/

namespace Filter

open Value

theorem holds_negate (leaf : Value → List Value → Bool) {x : Value} (h : isTree x = true) :
    holds leaf (negate x) = !holds leaf x := by
  induction x using negate.induct with
  | case1 kind k ts n negated hkind ih =>
      cases kind with
      | junction j =>
          have hinner : isTree (.expr k ts n) = true := by
            rw [isTree, areTrees_iff] at h
            exact h _ (List.mem_singleton_self _)
          rw [negate, if_pos hkind, holds_group, holds_group, List.map_singleton,
            List.map_singleton, Junction.joins_singleton, Junction.joins_singleton, ih hinner,
            Bool.xor_not]
      | comparison c =>
          rw [isJunctionKind_comparison] at hkind
          cases hkind
      | _ => cases h
  | case2 kind k ts n negated hkind =>
      rw [negate, if_neg hkind, holds, holds, Bool.not_xor]
  | case3 kind terms negated hmany =>
      rw [negate.eq_2 _ _ _ hmany, holds, holds, Bool.not_xor]
  | case4 v hone hany =>
      cases v with
      | expr kind terms negated => exact absurd rfl (hany kind terms negated)
      | _ => cases h

theorem isTree_negate {x : Value} (h : isTree x = true) : isTree (negate x) = true := by
  induction x using negate.induct with
  | case1 kind k ts n negated hkind ih =>
      cases kind with
      | junction j =>
          rw [isTree, areTrees_iff] at h
          rw [negate, if_pos hkind, isTree, areTrees_iff]
          intro y hy
          rw [List.mem_singleton] at hy
          rw [hy]
          exact ih (h _ (List.mem_singleton_self _))
      | comparison c =>
          rw [isJunctionKind_comparison] at hkind
          cases hkind
      | _ => cases h
  | case2 kind k ts n negated hkind =>
      rw [negate, if_neg hkind]
      cases kind with
      | comparison c => rfl
      | junction j => exact absurd (isJunctionKind_junction j) hkind
      | _ => cases h
  | case3 kind terms negated hmany =>
      rw [negate.eq_2 _ _ _ hmany]
      cases kind with
      | comparison c => rfl
      | junction j => exact h
      | _ => cases h
  | case4 v hone hany =>
      cases v with
      | expr kind terms negated => exact absurd rfl (hany kind terms negated)
      | _ => cases h

/-- One condition alone and a conjunction of any number of them have the same meaning. -/
theorem holds_grouped (leaf : Value → List Value → Bool) (xs : List Value) :
    holds leaf (grouped xs) = xs.all (holds leaf) := by
  match xs with
  | [] => exact holds_conjunction leaf []
  | [x] => rw [grouped, List.all_cons, List.all_nil, Bool.and_true]
  | x :: y :: rest => exact holds_conjunction leaf (x :: y :: rest)

theorem isTree_grouped {xs : List Value} (h : ∀ x ∈ xs, isTree x = true) :
    isTree (grouped xs) = true := by
  match xs with
  | [] => rfl
  | [x] => exact h x (List.mem_singleton_self x)
  | x :: y :: rest =>
      rw [grouped, isTree, areTrees_iff]
      · exact h
      · intro z hz
        cases hz

end Filter

end PostQuery
