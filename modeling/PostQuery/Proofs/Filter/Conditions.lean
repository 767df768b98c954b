import PostQuery.Proofs.Filter.Acceptance
import PostQuery.Proofs.Tree.Leaves

/-!
# The conditions of a filter and the leaves of its tree

A filter can be written out as the list of its conditions in the order of the text, and reading
keeps that list: it is the list of the leaves of the tree. `leaves_trees` is the account of it, and
everything it has to say is about negations.

A condition is negated as often as there is a `$not` around it, before a filter or within a field.
That need not be how often its leaf is, since the reader cancels what it can: within a field it
hands one flag down, and the opposite of a group of one goes down to that one. What the two counts
have in common is whether they are odd, so they are compared by their parity throughout.
-/

namespace PostQuery

namespace Filter

/-! ## Conditions -/

/-- What a filter asks of a field: a comparison with an operand, and how many `$not` there are
around it. -/
structure Condition where
  key : String
  comparison : Comparison
  operand : Value
  negations : Nat

namespace Condition

/-- How often the condition is turned around. Presence that is asked for with an operand that counts
as false is absence. -/
def flips (c : Condition) : Nat :=
  c.negations + if c.comparison = .present ∧ c.operand.truthy = false then 1 else 0

/-- The terms after the field: the operand, unless the condition asks for presence. -/
def literals (c : Condition) : List Value :=
  match c.comparison with
  | .present => []
  | _ => [.literal c.operand]

/-- The leaf for the condition, with no more of its negations than whether they are odd. -/
def signed (s : Settings) (c : Condition) : Value × List Value × Bool :=
  (.comparison c.comparison, fieldTerm s c.key :: c.literals, c.flips.bodd)

end Condition

mutual

/-- The conditions of a field with a value, below so many negations. -/
def operandConditions (key : String) : Value → Nat → List Condition
  | .dict entries, above =>
    if isPlain entries then [⟨key, .equal, .dict entries, above⟩]
    else operatorConditions key entries above
  | v, above => [⟨key, .equal, v, above⟩]

def operatorConditions (key : String) : List (Value × Value) → Nat → List Condition
  | [], _ => []
  | (operator, value) :: rest, above =>
    (match operator with
      | .text name =>
        if name == negation then operandConditions key value (above + 1)
        else match comparison? name with
          | some c => [⟨key, c, value, above⟩]
          | none => []
      | _ => [])
      ++ operatorConditions key rest above

end

mutual

/-- The conditions of the entries of a filter in their order, below so many negations. -/
def conditions : List (Value × Value) → Nat → List Condition
  | [], _ => []
  | (key, value) :: rest, above =>
    (match key with
      | .text name => entryConditions name value above
      | _ => [])
      ++ conditions rest above

def entryConditions (name : String) (value : Value) (above : Nat) : List Condition :=
  match junction? name with
  | some _ =>
    match value with
    | .list items => itemConditions items above
    | _ => []
  | none =>
    if name == negation then
      match value with
      | .dict entries => conditions entries (above + 1)
      | _ => []
    else operandConditions name value above

def itemConditions : List Value → Nat → List Condition
  | [], _ => []
  | item :: rest, above =>
    (match item with
      | .dict entries => conditions entries above
      | _ => [])
      ++ itemConditions rest above

end

/-- The conditions of a filter; one that counts as false has none. -/
def conditionsOf : Value → List Condition
  | .dict entries => conditions entries 0
  | _ => []

/-- The leaf compares what the condition does, and is negated where the condition is turned around
an odd number of times. -/
structure IsLeafOf (s : Settings) (l : Leaf) (c : Condition) : Prop where
  kind : l.kind = .comparison c.comparison
  terms : ∃ field, IsFieldTerm s c.key field ∧ l.terms = field :: c.literals
  parity : l.negations % 2 = c.flips % 2

theorem isLeafOf_of_signed {s : Settings} {l : Leaf} {c : Condition}
    (h : l.signed = c.signed s) : IsLeafOf s l c := by
  simp only [Leaf.signed, Condition.signed, Prod.mk.injEq] at h
  obtain ⟨hkind, hterms, hparity⟩ := h
  exact ⟨hkind, ⟨_, isFieldTerm_fieldTerm s c.key, hterms⟩, by
    rw [Nat.mod_two_of_bodd, Nat.mod_two_of_bodd, hparity]⟩

/-! ## The leaves of the trees -/

/-- A condition has one leaf, itself. Below the flag that is handed down, it is turned around as
often as it is below the negations that the flag stands for. -/
theorem leaves_condition (s : Settings) (key : String) (c : Comparison) (operand : Value)
    {negated : Bool} {above nots : Nat} (h : (above.bodd ^^ negated) = nots.bodd) :
    (leaves (condition (fieldTerm s key) c operand negated) above).map Leaf.signed
      = [Condition.signed s ⟨key, c, operand, nots⟩] := by
  have hleaf : ∀ terms n, (leaves (.expr (.comparison c) terms n) above).map Leaf.signed
      = [(.comparison c, terms, above.bodd ^^ n)] := by
    intro terms n
    rw [leaves, Value.isJunctionKind_comparison, if_neg Bool.false_ne_true, List.map_singleton,
      Leaf.signed, bodd_add_toNat]
  rw [condition.eq_def, Condition.signed, Condition.flips, Condition.literals.eq_def]
  cases c with
  | present =>
      cases htruthy : operand.truthy with
      | true => simp [hleaf, h]
      | false => simp [hleaf, ← h, Nat.bodd_succ]
  | _ => simp [hleaf, h]

mutual

theorem leaves_operandTrees {s : Settings} (key : String) (value : Value) {negated : Bool}
    {above nots : Nat} (h : (above.bodd ^^ negated) = nots.bodd) :
    (leavesOfAll (operandTrees (fieldTerm s key) value negated) above).map Leaf.signed
      = (operandConditions key value nots).map (Condition.signed s) := by
  cases value with
  | dict entries =>
      rw [operandTrees, operandConditions]
      split
      · rw [leavesOfAll_singleton]
        exact leaves_condition s key .equal _ h
      · exact leaves_operatorTrees key entries h
  | _ =>
      rw [operandTrees, operandConditions, leavesOfAll_singleton]
      · exact leaves_condition s key .equal _ h
      all_goals
        intro entries hdict
        cases hdict

theorem leaves_operatorTrees {s : Settings} (key : String) (entries : List (Value × Value))
    {negated : Bool} {above nots : Nat} (h : (above.bodd ^^ negated) = nots.bodd) :
    (leavesOfAll (operatorTrees (fieldTerm s key) entries negated) above).map Leaf.signed
      = (operatorConditions key entries nots).map (Condition.signed s) := by
  match entries with
  | [] => rfl
  | (operator, value) :: rest =>
      have hrest := leaves_operatorTrees (s := s) key rest h
      cases operator with
      | text name =>
          rw [operatorTrees, operatorConditions, leavesOfAll_append, List.map_append,
            List.map_append, hrest]
          congr 1
          cases hneg : name == negation with
          | true =>
              have hnot : (above.bodd ^^ !negated) = (nots + 1).bodd := by
                rw [Nat.bodd_succ, ← h, Bool.xor_not]
              exact leaves_operandTrees key value hnot
          | false =>
              cases hc : comparison? name with
              | some c =>
                  simp only [Bool.false_eq_true, if_false]
                  rw [leavesOfAll_singleton]
                  exact leaves_condition s key c value h
              | none => rfl
      | _ => exact hrest

end

mutual

/-- The leaves of what the entries of a filter are read into are their conditions. -/
theorem leaves_trees {s : Settings} (entries : List (Value × Value))
    (hlegal : grammatical entries = true) {above nots : Nat} (h : above.bodd = nots.bodd) :
    (leavesOfAll (trees s entries) above).map Leaf.signed
      = (conditions entries nots).map (Condition.signed s) := by
  match entries with
  | [] => rfl
  | (key, value) :: rest =>
      cases key with
      | text name =>
          rw [grammatical, Bool.and_eq_true] at hlegal
          rw [trees, conditions, leavesOfAll_append, List.map_append, List.map_append,
            leaves_trees rest hlegal.2 h]
          congr 1
          exact leaves_entryTrees name value hlegal.1 h
      | _ => cases hlegal

theorem leaves_entryTrees {s : Settings} (name : String) (value : Value)
    (hlegal : isEntry name value = true) {above nots : Nat} (h : above.bodd = nots.bodd) :
    (leavesOfAll (entryTrees s name value) above).map Leaf.signed
      = (entryConditions name value nots).map (Condition.signed s) := by
  rw [isEntry.eq_def] at hlegal
  rw [entryTrees.eq_def, entryConditions.eq_def]
  cases hj : junction? name with
  | some j =>
      rw [hj] at hlegal
      cases value with
      | list items =>
          simp only []
          rw [leavesOfAll_singleton, leaves_group]
          exact leaves_itemTrees items hlegal h
      | _ => cases hlegal
  | none =>
      rw [hj] at hlegal
      cases hneg : name == negation with
      | true =>
          rw [hneg] at hlegal
          cases value with
          | dict inner =>
              have hnot : (above + 1).bodd = (nots + 1).bodd := by
                rw [Nat.bodd_succ, Nat.bodd_succ, h]
              simp only [if_true]
              rw [leavesOfAll_singleton, leaves_negate, leaves_grouped]
              exact leaves_trees inner hlegal hnot
          | _ => cases hlegal
      | false =>
          simp only [Bool.false_eq_true, if_false]
          exact leaves_operandTrees name value (by rw [Bool.xor_false, h])

theorem leaves_itemTrees {s : Settings} (items : List Value) (hlegal : areFilters items = true)
    {above nots : Nat} (h : above.bodd = nots.bodd) :
    (leavesOfAll (itemTrees s items) above).map Leaf.signed
      = (itemConditions items nots).map (Condition.signed s) := by
  match items with
  | [] => rfl
  | item :: rest =>
      cases item with
      | dict inner =>
          rw [areFilters, Bool.and_eq_true] at hlegal
          rw [itemTrees, itemConditions, leavesOfAll, List.map_append, List.map_append,
            leaves_itemTrees rest hlegal.2 h, leaves_grouped, leaves_trees inner hlegal.1 h]
      | _ => cases hlegal

end

/-! ## The shape of the trees -/

/-- The tree is one that builders can read. No negated group is one of a single term, which query
arguments have no way to say. -/
inductive IsReadable (s : Settings) : Value → Prop
  | group (j : Junction) {terms : List Value} {negated : Bool}
      (hterms : ∀ x ∈ terms, IsReadable s x) (hmany : negated = true → terms.length ≠ 1) :
      IsReadable s (.expr (.junction j) terms negated)
  | presence {key : String} {field : Value} (hfield : IsFieldTerm s key field) (negated : Bool) :
      IsReadable s (.expr (.comparison .present) [field] negated)
  | comparison {c : Comparison} (hc : c ≠ .present) {key : String} {field : Value}
      (hfield : IsFieldTerm s key field) (operand : Value) (negated : Bool) :
      IsReadable s (.expr (.comparison c) [field, .literal operand] negated)

theorem isReadable_condition (s : Settings) (key : String) (c : Comparison) (operand : Value)
    (negated : Bool) : IsReadable s (condition (fieldTerm s key) c operand negated) := by
  rw [condition.eq_def]
  cases c with
  | present => exact .presence (isFieldTerm_fieldTerm s key) _
  | _ => exact .comparison (by decide) (isFieldTerm_fieldTerm s key) operand negated

theorem isReadable_negate {s : Settings} {x : Value} (h : IsReadable s x) :
    IsReadable s (negate x) := by
  induction x using negate.induct with
  | case1 kind k ts n negated hkind ih =>
      rw [negate, if_pos hkind]
      cases h with
      | group j hterms hmany =>
          have hone := ih (hterms _ (List.mem_singleton_self _))
          exact .group j (by simpa using hone) hmany
      | presence hfield => cases hfield
  | case2 kind k ts n negated hkind =>
      cases h with
      | group j => exact absurd (Value.isJunctionKind_junction j) hkind
      | presence hfield => cases hfield
  | case3 kind terms negated hmany =>
      rw [negate.eq_2 _ _ _ hmany]
      cases h with
      | group j hterms =>
          refine .group j hterms fun _ hlength => ?_
          obtain ⟨x, rfl⟩ := List.length_eq_one_iff.1 hlength
          cases hterms x (List.mem_singleton_self x) with
          | group => exact hmany _ _ _ rfl
          | presence => exact hmany _ _ _ rfl
          | comparison => exact hmany _ _ _ rfl
      | presence hfield => exact .presence hfield _
      | comparison hc hfield => exact .comparison hc hfield _ _
  | case4 v hone hany => cases h <;> exact absurd rfl (hany _ _ _)

theorem keptByReading_isReadable (s : Settings) : KeptByReading s (IsReadable s) where
  condition := isReadable_condition s
  group j _ h := .group j h fun hno => Bool.noConfusion hno
  negate _ h := isReadable_negate h

/-! ## Whole filters -/

/-- The tree that a filter is read into has one leaf for each condition of the filter, in the same
order and with the same negations up to an even number of them. Its root is a conjunction that is
not negated, and all of it can be read by builders. -/
theorem read_keeps_conditions (r : Reader) (v t : Value) (h : (r.read v).1 = .ok t) :
    List.Forall₂ (IsLeafOf r.settings) (leaves t 0) (conditionsOf v) ∧
      (∃ terms, t = .expr (.junction .and) terms false) ∧ IsReadable r.settings t := by
  obtain ⟨hacceptable, rfl⟩ := read_eq_ok.1 h
  have hlegal : (∃ entries, v = .dict entries ∧ grammatical entries = true) ∨
      conditionsOf v = [] ∧ tree r.settings v = .expr (.junction .and) [] false := by
    obtain hfalse | ⟨entries, rfl, hlegal, -⟩ := hacceptable
    · cases v with
      | dict entries =>
          rw [eq_nil_of_falsy hfalse]
          exact .inr ⟨rfl, rfl⟩
      | _ => exact .inr ⟨rfl, rfl⟩
    · exact .inl ⟨entries, rfl, hlegal⟩
  have hkept := keptByReading_isReadable r.settings
  obtain ⟨entries, rfl, hlegal⟩ | ⟨hnone, htree⟩ := hlegal
  · refine ⟨?_, ⟨_, rfl⟩, hkept.group .and _ (hkept.mem_trees entries hlegal)⟩
    have hsigned := leaves_trees (s := r.settings) entries hlegal (rfl : (0 : Nat).bodd = _)
    rw [← List.forall₂_eq_eq_eq, List.forall₂_map_left_iff, List.forall₂_map_right_iff] at hsigned
    rw [tree, leaves_group]
    exact hsigned.imp fun _ _ => isLeafOf_of_signed
  · rw [hnone, htree]
    exact ⟨.nil, ⟨_, rfl⟩, hkept.group .and [] (by simp)⟩

/-- Not both a price that is not above five and no price at all: the group of the two is negated, and
so is either leaf, the one for a `$not` and the other for asking that there be none. -/
theorem read_keeps_conditions_of_nested :
    let price := Value.dict [(.text "$not", .dict [(.text "$gt", .int 5)]),
      (.text "$exists", .bool false)]
    let v := Value.dict [(.text "$not", .dict [(.text "price", price)])]
    let field := Value.variable (.text "price")
    let above := Value.expr (.comparison .greater) [field, .literal (.int 5)] true
    let absent := Value.expr (.comparison .present) [field] true
    let t := Value.expr (.junction .and) [.expr (.junction .and) [above, absent] true] false
    let r : Reader := {}
    (r.read v).1 = .ok t ∧
      (leaves t 0).map Leaf.negations = [2, 2] ∧ (conditionsOf v).map Condition.flips = [2, 2] ∧
      List.Forall₂ (IsLeafOf r.settings) (leaves t 0) (conditionsOf v) ∧
      IsReadable r.settings t := by
  intro price v field above absent t r
  have hacceptable : Acceptable r.limit v := .inr ⟨_, rfl, by decide, by decide⟩
  have htree : tree r.settings v = t := by
    change Value.expr (.junction .and) [negate (.expr (.junction .and) [above, absent] false)] false
      = t
    rw [negate.eq_2 _ _ _ (by simp)]
    rfl
  have hread : (r.read v).1 = .ok t := htree ▸ read_of_acceptable hacceptable
  have hkept := read_keeps_conditions r v t hread
  exact ⟨hread, rfl, rfl, hkept.1, hkept.2.2⟩

end Filter

end PostQuery
