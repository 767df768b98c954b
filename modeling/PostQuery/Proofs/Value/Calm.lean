import PostQuery.Proofs.Value.Keys

/-!
# Comparisons that are no errors

Two comparisons are errors: going around in values that hold themselves, and meeting a signaling
decimal next to a number. A value without either in any part that is looked at can be compared with
any other one like it. The items of sets are not asked about, since an error among them only says
that they are no match.

Whatever can be a key is such a value.
-/

namespace PostQuery

namespace Value

mutual

/-- No part of the value that is looked at holds the value itself or signals. -/
def isCalm : Value → Bool
  | .again .. => false
  | .decimal d => !d.isSignaling
  | .list items | .tuple items => areCalm items
  | .dict entries => areCalmEntries entries
  | .literal v | .variable v => isCalm v
  | .field e n => isCalm e && isCalm n
  | .expr kind terms _ => isCalm kind && areCalm terms
  | _ => true

def areCalm : List Value → Bool
  | [] => true
  | v :: vs => isCalm v && areCalm vs

def areCalmEntries : List (Value × Value) → Bool
  | [] => true
  | (k, v) :: es => isCalm k && isCalm v && areCalmEntries es

end

theorem areCalm_iff {vs : List Value} : areCalm vs = true ↔ ∀ v ∈ vs, v.isCalm = true := by
  induction vs with
  | nil => simp [areCalm]
  | cons v vs ih => rw [areCalm, Bool.and_eq_true, List.forall_mem_cons, ih]

theorem areCalmEntries_iff {es : List (Value × Value)} :
    areCalmEntries es = true ↔ ∀ e ∈ es, e.1.isCalm = true ∧ e.2.isCalm = true := by
  induction es with
  | nil => simp [areCalmEntries]
  | cons e es ih =>
      rw [areCalmEntries, Bool.and_eq_true, Bool.and_eq_true, List.forall_mem_cons, ih]

/-! ## Steps of a comparison -/

theorem exists_both {p q : Except Misuse Bool} (hp : ∃ b, p = .ok b) (hq : ∃ b, q = .ok b) :
    ∃ b, (do if ← p then q else pure false) = .ok b := by
  obtain ⟨b, rfl⟩ := hp
  cases b with
  | true => exact hq
  | false => exact ⟨false, rfl⟩

theorem exists_same {v w : Value} (h : ∃ b, equal v w = .ok b) :
    ∃ b, (if isShared v w then .ok true else equal v w) = .ok b := by
  split
  · exact ⟨true, rfl⟩
  · exact h

theorem exists_equalAll {xs ys : List Value} (h : ∀ x ∈ xs, ∀ y ∈ ys, ∃ b, equal x y = .ok b) :
    ∃ b, equalAll xs ys = .ok b := by
  induction xs generalizing ys with
  | nil => cases ys <;> exact ⟨_, by rw [equalAll.eq_def]⟩
  | cons x xs ih =>
      cases ys with
      | nil => exact ⟨_, by rw [equalAll.eq_def]⟩
      | cons y ys =>
          rw [equalAll]
          refine exists_both (exists_same (h x List.mem_cons_self y List.mem_cons_self)) ?_
          exact ih fun x hx y hy => h x (List.mem_cons_of_mem _ hx) y (List.mem_cons_of_mem _ hy)

theorem exists_anyPasses {α : Type} {p : α → Except Misuse Bool} {xs : List α}
    (h : ∀ x ∈ xs, ∃ b, p x = .ok b) : ∃ b, anyPasses p xs = .ok b := by
  induction xs with
  | nil => exact ⟨_, rfl⟩
  | cons x xs ih =>
      obtain ⟨hx, hxs⟩ := List.forall_mem_cons.1 h
      obtain ⟨b, hb⟩ := hx
      rw [anyPasses, hb]
      cases b with
      | true => exact ⟨true, rfl⟩
      | false => exact ih hxs

theorem exists_equalEntries {xs ys : List (Value × Value)}
    (h : ∀ e ∈ xs, ∀ e' ∈ ys, (∃ b, equal e.1 e'.1 = .ok b) ∧ ∃ b, equal e.2 e'.2 = .ok b) :
    ∃ b, equalEntries xs ys = .ok b := by
  induction xs with
  | nil => exact ⟨true, by rw [equalEntries]⟩
  | cons e xs ih =>
      obtain ⟨hx, hxs⟩ := List.forall_mem_cons.1 h
      rw [equalEntries]
      refine exists_both (exists_anyPasses fun e' he' => ?_) (ih hxs)
      exact exists_both (exists_same (hx e' he').1) (exists_same (hx e' he').2)

theorem exists_sameNumeric {v w : Value} (hv : v.isCalm = true) (hw : w.isCalm = true) :
    ∃ b, sameNumeric v w = .ok b := by
  have hsilent : ∀ {u : Value}, u.isCalm = true → u.isSignaling = false := by
    intro u hu
    cases u with
    | decimal d => rwa [isCalm, Bool.not_eq_true'] at hu
    | _ => rfl
  rw [sameNumeric, hsilent hv, hsilent hw, Bool.or_false, Bool.and_false]
  exact ⟨_, rfl⟩

theorem meetsItself_eq_false {v w : Value} (hv : v.isCalm = true) (hw : w.isCalm = true) :
    meetsItself v w = false := by
  rw [meetsItself.eq_def]
  split
  · cases hv
  · cases hw
  · rfl

theorem sizeOf_entry {e : Value × Value} {es : List (Value × Value)} (h : e ∈ es) :
    sizeOf e.1 < sizeOf (dict es) ∧ sizeOf e.2 < sizeOf (dict es) := by
  obtain ⟨k, v⟩ := e
  have hsize := List.sizeOf_lt_of_mem h
  rw [Prod.mk.sizeOf_spec] at hsize
  constructor <;> rw [dict.sizeOf_spec] <;> dsimp only <;> omega

/-- Values that are calm can be compared. -/
theorem exists_equal {v w : Value} (hv : v.isCalm = true) (hw : w.isCalm = true) :
    ∃ b, equal v w = .ok b := by
  -- By the parts of the first value, whichever parts of the second one they are compared with.
  rw [equal.eq_def]
  split <;> try exact ⟨_, rfl⟩
  · next xs ys =>
      rw [isCalm, areCalm_iff] at hv hw
      split
      · exact exists_equalAll fun x hx y hy => exists_equal (hv x hx) (hw y hy)
      · exact ⟨_, rfl⟩
  · next xs ys =>
      rw [isCalm, areCalm_iff] at hv hw
      exact exists_equalAll fun x hx y hy => exists_equal (hv x hx) (hw y hy)
  · next xs ys =>
      rw [isCalm, areCalmEntries_iff] at hv hw
      split
      · refine exists_equalEntries fun e he e' he' => ?_
        have hsize := sizeOf_entry he
        exact ⟨exists_equal (hv e he).1 (hw e' he').1, exists_equal (hv e he).2 (hw e' he').2⟩
      · exact ⟨_, rfl⟩
  · exact exists_same (exists_equal hv hw)
  · exact exists_same (exists_equal hv hw)
  · rw [isCalm, Bool.and_eq_true] at hv hw
    exact exists_both (exists_same (exists_equal hv.1 hw.1))
      (exists_same (exists_equal hv.2 hw.2))
  · rw [isCalm, Bool.and_eq_true, areCalm_iff] at hv hw
    refine exists_both (exists_same (exists_equal hv.1 hw.1)) (exists_both ?_ ⟨_, rfl⟩)
    refine exists_equalAll fun x hx y hy => ?_
    have hsize := List.sizeOf_lt_of_mem hx
    exact exists_equal (hv.2 x hx) (hw.2 y hy)
  · rw [meetsItself_eq_false hv hw]
    exact exists_sameNumeric hv hw
termination_by sizeOf v
decreasing_by
  all_goals subst_vars
  all_goals first
    | exact hsize.1
    | exact hsize.2
    | (rw [expr.sizeOf_spec]; omega)
    | decreasing_tactic

/-- What can be a key is calm. -/
theorem isCalm_of_isKey {v : Value} (h : v.IsKey) : v.isCalm = true := by
  cases v with
  | decimal d =>
      cases d with
      | nan negative signaling digits =>
          cases signaling with
          | true => cases h
          | false => rfl
      | _ => rfl
  | tuple items =>
      rw [isCalm, areCalm_iff]
      exact fun v hv => isCalm_of_isKey (isKey_tuple.1 h v hv)
  | literal v =>
      rw [isCalm]
      exact isCalm_of_isKey (show v.IsKey from h)
  | «variable» k =>
      rw [isCalm]
      exact isCalm_of_isKey (show k.IsKey from h)
  | field e n =>
      obtain ⟨he, hn⟩ := isKey_field.1 h
      rw [isCalm, isCalm_of_isKey he, isCalm_of_isKey hn]
      rfl
  | expr kind terms negated =>
      obtain ⟨hkind, hterms⟩ := isKey_expr.1 h
      rw [isCalm, isCalm_of_isKey hkind, Bool.true_and, areCalm_iff]
      exact fun v hv => isCalm_of_isKey (hterms v hv)
  | list | dict | again => cases h
  | _ => rfl

end Value

end PostQuery
