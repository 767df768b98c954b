import PostQuery.Arguments
import PostQuery.Outcome
import PostQuery.Proofs.Relation.Answers

/-!
# The way down to the first offender

A group that makes no block is refused because of one of its terms, or because of its own junction.
In the first case the refusal of the term is the cause, and it has a cause in turn, so following the
causes is going down the tree. `Path` is what is found on the way: the subjects are terms of one
another, each the first in its group that does not build, and at the end there is a node or a value
that is to blame itself, in one of three ways that exclude each other.

Nothing here asks whether a builder has parts of its own or whether entities can be compared. Where
it matters the attempt breaks, and a break is no refusal.
-/

namespace PostQuery

/-! ## Following the causes -/

namespace Failure

/-- The subject of a refusal of a tree, and below it those of its causes, as far down as these are
refusals of trees. -/
def trail : Failure → List Value
  | .unsupported _ subject (some f) _ => subject :: f.trail
  | .unsupported _ subject none _ => [subject]
  | _ => []

/-- What stands below the last refusal of a tree. -/
def origin? : Failure → Option Failure
  | .unsupported _ _ (some f) _ => f.origin?
  | .unsupported _ _ none _ => none
  | f => some f

theorem IsRaised.trail {f : Failure} (h : f.IsRaised) : f.trail = [] := by
  cases f with
  | unsupported _ _ _ _ => exact h.elim
  | _ => rfl

theorem IsRaised.origin? {f : Failure} (h : f.IsRaised) : f.origin? = some f := by
  cases f with
  | unsupported _ _ _ _ => exact h.elim
  | _ => rfl

end Failure

/-- An outcome with a refusal is that of a refused attempt, and holds nothing else. -/
theorem Outcome.of_error {a : Attempt Dict} {o : Outcome} {f : Failure}
    (h : ofAttempt a = .ok o) (hf : o.error = some f) :
    o.value = none ∧ a = .error (.refused f) := by
  match a with
  | .ok d =>
      cases h
      cases hf
  | .error (.refused g) =>
      cases h
      cases hf
      exact ⟨rfl, rfl⟩
  | .error (.broken m) => cases h

/-! ## What an attempt is refused by -/

/-- The attempt is refused for nothing but failures with the property, if it is refused at all. -/
def RefusesOnlyBy {α : Type} (P : Failure → Prop) (a : Attempt α) : Prop :=
  ∀ f, a = .error (.refused f) → P f

section

variable {α β : Type} {P : Failure → Prop}

theorem RefusesBy.only {a : Attempt α} (h : RefusesBy P a) : RefusesOnlyBy P a := by
  rintro f rfl
  obtain ⟨y, hy⟩ | ⟨g, hg, hP⟩ := h
  · cases hy
  · cases hg
    exact hP

namespace RefusesOnlyBy

theorem ok (y : α) : RefusesOnlyBy P (.ok y : Attempt α) := by
  intro f h
  cases h

theorem broken (m : Misuse) : RefusesOnlyBy P (.error (.broken m) : Attempt α) := by
  intro f h
  cases h

theorem bind {a : Attempt α} {g : α → Attempt β} (ha : RefusesOnlyBy P a)
    (hg : ∀ y, RefusesOnlyBy P (g y)) : RefusesOnlyBy P (a >>= g) := by
  match a with
  | .ok y => exact hg y
  | .error (.refused f) =>
      rintro _ ⟨⟩
      exact ha f rfl
  | .error (.broken m) => exact broken m

theorem map {a : Attempt α} (g : α → β) (ha : RefusesOnlyBy P a) :
    RefusesOnlyBy P (a.map g) := by
  match a with
  | .ok y => exact ok (g y)
  | .error (.refused f) =>
      rintro _ ⟨⟩
      exact ha f rfl
  | .error (.broken m) => exact broken m

theorem unbroken (e : Except Misuse α) : RefusesOnlyBy P (unbroken e) := by
  cases e with
  | ok y => exact ok y
  | error m => exact broken m

end RefusesOnlyBy

end

variable {b : Builder} {mode : Mode} {kind : Value} {terms : List Value} {negated : Bool}
  {x y : Value} {f g : Failure}

theorem refusesOnlyBy_resolve (ctx : Context) (kind : Value) (negated : Bool) :
    RefusesOnlyBy (fun f => ctx.resolve kind negated = .error f ∧ f.IsFound)
      (b.resolve ctx kind negated) := by
  rw [Builder.resolve]
  split
  · exact .broken _
  · exact .broken _
  · intro f h
    have hfound := (refusesBy_resolve (b := {}) rfl ctx kind negated).only f
    rw [Builder.resolve_eq rfl] at hfound
    refine ⟨?_, hfound h⟩
    cases hresolve : ctx.resolve kind negated with
    | ok token =>
        rw [hresolve] at h
        cases h
    | error g =>
        rw [hresolve] at h
        cases h
        rfl

theorem refusesOnlyBy_fieldName? (setting : String) (entity : Settings → Value) (term : Value)
    {P : Failure → Prop} : RefusesOnlyBy P (fieldName? b setting entity term) := by
  cases term with
  | field e name => exact .unbroken _
  | _ => exact .ok none

theorem refusesOnlyBy_scanOperands {field? : Value → Attempt (Option Value)}
    (hfield : ∀ term, RefusesOnlyBy Failure.IsFound (field? term)) (terms : List Value)
    (field literal : Option Value) :
    RefusesOnlyBy Failure.IsFound (scanOperands field? terms field literal) := by
  induction terms generalizing field literal with
  | nil => exact .ok _
  | cons term rest ih =>
      rw [scanOperands_cons]
      refine .bind ?_ fun taken => ?_
      · split
        · exact .ok none
        · exact hfield term
      · cases taken with
        | some name => exact ih _ _
        | none =>
            simp only []
            split
            · exact ih _ _
            · rintro _ ⟨⟩
              trivial

theorem refusesOnlyBy_operands {field? : Value → Attempt (Option Value)}
    (hfield : ∀ term, RefusesOnlyBy Failure.IsFound (field? term)) (terms : List Value)
    (literalOptional : Bool) :
    RefusesOnlyBy Failure.IsFound (operands field? terms literalOptional) := by
  refine .bind (refusesOnlyBy_scanOperands hfield terms none none) fun (field, literal) => ?_
  cases field with
  | none =>
      rintro _ ⟨⟩
      trivial
  | some name =>
      simp only []
      split
      · rintro _ ⟨⟩
        trivial
      · exact .ok _

theorem refusesOnlyBy_operatorEntry (ctx : Context) (name : String) (token : Token)
    {P : Failure → Prop} : RefusesOnlyBy P (b.operatorEntry ctx name token) := by
  rw [Builder.operatorEntry, Builder.spells]
  cases b.settingsFor "explicit_defaults" with
  | error m => exact .broken m
  | ok s => exact .bind (.ok _) fun spelled => by cases spelled <;> exact .ok _

/-- What was read of a plain comparison is not refused any more. -/
theorem refusesOnlyBy_compareEntries (key value : Value) (token : Token) {P : Failure → Prop} :
    RefusesOnlyBy P (b.compareEntries key value token) := by
  refine .bind (.unbroken _) fun key => ?_
  exact .bind (refusesOnlyBy_operatorEntry _ _ _) fun operator => .ok _

/-- A comparison is refused for its operator, its operands or its value. -/
theorem refusesOnlyBy_clauseIn (mode : Mode) (kind : Value) (terms : List Value)
    (negated : Bool) : RefusesOnlyBy Failure.IsFound (b.clauseIn mode kind terms negated) := by
  refine .bind (fun f h => (refusesOnlyBy_resolve _ _ _ f h).2) fun token => ?_
  have hfield : ∀ term,
      RefusesOnlyBy Failure.IsFound (fieldName? b mode.setting mode.entity term) :=
    fun term => refusesOnlyBy_fieldName? _ _ term
  refine .bind (refusesOnlyBy_operands hfield _ _) fun (name, literal) => ?_
  refine .bind (refusesBy_literalEntries _ _ _ _).only fun entries => ?_
  exact .bind (refusesOnlyBy_operatorEntry _ _ _) fun operator => .ok _

/-! ## Refusals of trees -/

theorem refuseWith_eq_refused {α : Type} {c : Complaint} {cause : Option Failure}
    {causes : List Failure}
    (h : (b.refuseWith c x cause causes : Attempt α) = .error (.refused f)) :
    f = .unsupported (b.catalog.reword c.text) x cause causes := by
  rw [Builder.refuseWith] at h
  split at h
  · cases h
    rfl
  · cases h

theorem within_eq_refused {α : Type} {c : Complaint} {a : Attempt α}
    (h : b.within c x a = .error (.refused f)) :
    ∃ g, a = .error (.refused g) ∧ f = .unsupported (b.catalog.reword c.text) x (some g) [] := by
  match a with
  | .ok _ => cases h
  | .error (.broken _) => cases h
  | .error (.refused g) => exact ⟨g, rfl, refuseWith_eq_refused h⟩

theorem relationTerms_eq_mapM (leaf : Value → Attempt Dict) (terms : List Value) :
    b.relationTerms leaf terms = terms.mapM (b.part leaf) := by
  induction terms with
  | nil => rfl
  | cons term rest ih => rw [relationTerms_cons, List.mapM_cons, ih]

/-- The terms of a group are gone through up to the first that is not built. -/
theorem relationTerms_eq_error {leaf : Value → Attempt Dict} {o : Obstacle} :
    b.relationTerms leaf terms = .error o ↔
      ∃ before y after, terms = before ++ y :: after ∧
        (∀ z ∈ before, ∃ d, b.part leaf z = .ok d) ∧ b.part leaf y = .error o := by
  rw [relationTerms_eq_mapM]
  exact mapM_eq_error

/-! ## The way down -/

/-- The second value is a term of the first, and the first among its terms that is refused where it
stands: all terms before it build. -/
def IsFirstRefused (b : Builder) (mode : Mode) (x y : Value) : Prop :=
  ∃ kind before after negated, x = .expr kind (before ++ y :: after) negated ∧
    (∀ z ∈ before, ∃ d, b.part (b.leaf .standard mode) z = .ok d) ∧
    ∃ f, b.part (b.leaf .standard mode) y = .error (.refused f)

/-- The ways in which something in a tree is to blame itself. -/
inductive Offence where
  | noNode
  | junction
  | comparison
  deriving DecidableEq

/-- The value is to blame itself, and the failure is what was found: nothing where it is no node, an
operator that there is not where the junction of a group does not exist or is negated, and whatever
a clause can be refused for where it is a comparison. The tree as a whole has to be a group; what
is inside it may be a comparison. -/
inductive Offends (b : Builder) (mode : Mode) (inside : Bool) :
    Value → Option Failure → Offence → Prop
  | noNode {x : Value} (hx : x.isExpr = false) : Offends b mode inside x none .noNode
  | junction {kind name : Value} {terms : List Value} {negated : Bool} {cause : Option Failure}
      (hgroup : inside = true → kind.isJunctionKind = true)
      (hnone : negated = true ∨ kind.junction? = none) :
      Offends b mode inside (.expr kind terms negated)
        (some (.operator name .relation negated cause)) .junction
  | comparison {kind : Value} {terms : List Value} {negated : Bool} {message : String}
      {f : Failure} (hinside : inside = true) (hkind : kind.isJunctionKind = false)
      (hleaf : b.leaf .standard mode (.expr kind terms negated)
        = .error (.refused (.unsupported message (.expr kind terms negated) (some f) [])))
      (hf : f.IsRaised) :
      Offends b mode inside (.expr kind terms negated) (some f) .comparison

theorem Offends.unique {inside : Bool} {cause : Option Failure} {o o' : Offence}
    (h : Offends b mode inside x cause o) (h' : Offends b mode inside x cause o') : o = o' := by
  cases h with
  | noNode hx =>
      cases h' with
      | noNode _ => rfl
  | junction hgroup _ =>
      cases h' with
      | junction _ _ => rfl
      | comparison hinside hkind _ _ => exact absurd (hgroup hinside) (by simp [hkind])
  | comparison hinside hkind _ _ =>
      cases h' with
      | junction hgroup _ => exact absurd (hgroup hinside) (by simp [hkind])
      | comparison _ _ _ _ => rfl

/-- The causes of a failure lead down from a value, over one first refused term after the other, to
something that is to blame itself. -/
structure Path (b : Builder) (mode : Mode) (inside : Bool) (x : Value) (f : Failure)
    (below : List Value) : Prop where
  trail : f.trail = x :: below
  chain : List.IsChain (IsFirstRefused b mode) (x :: below)
  ends : ∃ o, Offends b mode (inside || !below.isEmpty) (below.getLastD x) f.origin? o

namespace Path

variable {inside : Bool} {message : String}

theorem here {o : Offence} (hraised : f.IsRaised) (h : Offends b mode inside x (some f) o) :
    Path b mode inside x (.unsupported message x (some f) []) [] := by
  refine ⟨?_, .singleton x, o, ?_⟩
  · rw [Failure.trail, hraised.trail]
  · rw [List.isEmpty_nil, Bool.not_true, Bool.or_false, List.getLastD_nil, Failure.origin?,
      hraised.origin?]
    exact h

theorem below {path : List Value} (hxy : IsFirstRefused b mode x y)
    (h : Path b mode true y f path) :
    Path b mode inside x (.unsupported message x (some f) []) (y :: path) := by
  refine ⟨?_, .cons_cons hxy h.chain, ?_⟩
  · rw [Failure.trail, h.trail]
  · have hends := h.ends
    rw [Bool.true_or] at hends
    rw [List.isEmpty_cons, Bool.not_false, Bool.or_true, List.getLastD_cons, Failure.origin?]
    exact hends

end Path

/-- The junction is what the relation context has no operator for. -/
theorem offends_junction {inside : Bool} (hgroup : inside = true → kind.isJunctionKind = true)
    (h : Context.relation.resolve kind negated = .error f) :
    Offends b mode inside (.expr kind terms negated) (some f) .junction := by
  have hnone : negated = true ∨ kind.junction? = none := by
    cases negated with
    | true => exact .inl rfl
    | false =>
        refine .inr (Option.eq_none_iff_forall_ne_some.2 fun j hj => ?_)
        rw [Context.resolve_relation_eq_ok.2 ⟨rfl, j, hj, rfl⟩] at h
        cases h
  rw [Context.resolve] at h
  split at h
  · cases h
    exact .junction hgroup hnone
  · split at h
    · cases h
      exact .junction hgroup hnone
    · split at h
      · cases h
      · split at h <;> cases h
        exact .junction hgroup hnone

/-- A group is refused for its junction or for one of its terms. -/
theorem relation_eq_refused {leaf : Value → Attempt Dict}
    (h : b.relation leaf (.expr kind terms negated) = .error (.refused f)) :
    ∃ g, f = .unsupported (b.catalog.reword Complaint.relation.text) (.expr kind terms negated)
        (some g) [] ∧
      (Context.relation.resolve kind negated = .error g ∧ g.IsRaised ∨
        b.relationTerms leaf terms = .error (.refused g)) := by
  rw [relation_expr] at h
  obtain ⟨g, hg, rfl⟩ := within_eq_refused h
  refine ⟨g, rfl, ?_⟩
  cases hresolve : b.resolve .relation kind negated with
  | error o =>
      rw [hresolve] at hg
      cases hg
      obtain ⟨hnone, hfound⟩ := refusesOnlyBy_resolve _ _ _ _ hresolve
      exact .inl ⟨hnone, hfound.isRaised⟩
  | ok token =>
      right
      rw [hresolve] at hg
      change (b.relationTerms leaf terms).map (Builder.block token) = _ at hg
      cases hparts : b.relationTerms leaf terms with
      | ok parts =>
          rw [hparts] at hg
          cases hg
      | error o =>
          rw [hparts] at hg
          cases hg
          rfl

/-- A comparison is refused for what was found wrong with its clause. -/
theorem offends_comparison (hkind : kind.isJunctionKind = false)
    (h : b.leaf .standard mode (.expr kind terms negated) = .error (.refused f)) :
    ∃ g message, f = .unsupported message (.expr kind terms negated) (some g) [] ∧ g.IsRaised ∧
      Offends b mode true (.expr kind terms negated) (some g) .comparison := by
  have hclause := h
  rw [leaf_expr, hkind, if_neg Bool.false_ne_true] at hclause
  obtain ⟨g, hg, rfl⟩ := within_eq_refused hclause
  have hraised := (refusesOnlyBy_clauseIn _ _ _ _ _ hg).isRaised
  exact ⟨g, _, rfl, hraised, .comparison rfl hkind h hraised⟩

/-- A refusal of a group has a path down from the group. Where it is a term that does not build,
that is smaller, and its own refusal is the cause. -/
theorem exists_path (inside : Bool) {kind : Value} {terms : List Value} {negated : Bool}
    {f : Failure} (hgroup : inside = true → kind.isJunctionKind = true)
    (h : b.relation (b.leaf .standard mode) (.expr kind terms negated) = .error (.refused f)) :
    ∃ path, Path b mode inside (.expr kind terms negated) f path := by
  obtain ⟨g, rfl, ⟨hnone, hraised⟩ | hterms⟩ := relation_eq_refused h
  · exact ⟨[], .here hraised (offends_junction hgroup hnone)⟩
  · obtain ⟨before, y, after, hsplit, hbefore, hy⟩ := relationTerms_eq_error.1 hterms
    have hfirst : IsFirstRefused b mode (.expr kind terms negated) y :=
      ⟨kind, before, after, negated, by rw [hsplit], hbefore, g, hy⟩
    suffices hbelow : ∃ path, Path b mode true y g path by
      obtain ⟨path, hpath⟩ := hbelow
      exact ⟨y :: path, .below hfirst hpath⟩
    have hmem : y ∈ terms := by simp [hsplit]
    cases y with
    | expr kind' terms' negated' =>
        cases hkind : kind'.isJunctionKind with
        | true =>
            rw [Builder.part, hkind, if_pos rfl] at hy
            have hsmaller : sizeOf terms' < sizeOf terms := by
              have hsize := List.sizeOf_lt_of_mem hmem
              rw [Value.expr.sizeOf_spec] at hsize
              omega
            exact exists_path true (fun _ => hkind) hy
        | false =>
            rw [Builder.part, hkind, if_neg Bool.false_ne_true] at hy
            obtain ⟨f, message, rfl, hraised, hoffends⟩ := offends_comparison hkind hy
            exact ⟨[], .here hraised hoffends⟩
    | _ =>
        cases refuseWith_eq_refused hy
        exact ⟨[], rfl, .singleton _, _, .noNode rfl⟩
termination_by sizeOf terms
decreasing_by exact hsmaller

/-- The refusal of a node in a mode has nothing built beside it and the node for its subject, and
its causes lead down from there: from each subject to the first of its terms that is refused where
it stands, all those before it building, until something is to blame itself, in exactly one way. -/
theorem standardRelation_refusal_path (b : Builder) (mode : Mode) (kind : Value)
    (terms : List Value) (negated : Bool) (o : Outcome) (f : Failure)
    (h : Outcome.ofAttempt (b.standardRelation mode (.expr kind terms negated)) = .ok o)
    (hf : o.error = some f) :
    o.value = none ∧
      (∃ g, f = .unsupported (b.catalog.reword Complaint.relation.text)
        (.expr kind terms negated) (some g) []) ∧
      ∃ path, f.trail = .expr kind terms negated :: path ∧
        List.IsChain (IsFirstRefused b mode) (.expr kind terms negated :: path) ∧
        ∃! offence, Offends b mode (!path.isEmpty)
          (path.getLastD (.expr kind terms negated)) f.origin? offence := by
  obtain ⟨hvalue, hrefused⟩ := Outcome.of_error h hf
  obtain ⟨g, hg, -⟩ := relation_eq_refused hrefused
  obtain ⟨path, htrail, hchain, offence, hends⟩ :=
    exists_path false (fun hinside => nomatch hinside) hrefused
  rw [Bool.false_or] at hends
  exact ⟨hvalue, ⟨g, hg⟩, path, htrail, hchain, offence, hends, fun _ h => h.unique hends⟩

/-- The first term builds, and the second is a group with a comparison about a field of the other
entity. That is where the causes lead, and the third term, which is no node, is not looked at. -/
theorem standardRelation_refusal_path_of_nested :
    let sku := Value.expr (.comparison .present) [.field (.text "meta") (.text "sku")] false
    let color := Value.expr (.comparison .equal)
      [.field (.text "tax") (.text "color"), .literal (.int 1)] false
    let group := Value.expr (.junction .or) [color] false
    let x := Value.expr (.junction .and) [sku, group, .int 3] false
    let b : Builder := {}
    ∃ o f, Outcome.ofAttempt (b.standardRelation .postMeta x) = .ok o ∧ o.error = some f ∧
      o.value = none ∧ f.trail = [x, group, color] ∧
      List.IsChain (IsFirstRefused b .postMeta) [x, group, color] ∧
      ∃! offence, Offends b .postMeta true color f.origin? offence := by
  intro sku color group x b
  let fault := Failure.operands (.unexpected (.field (.text "tax") (.text "color")))
  let refused (c : Complaint) (y : Value) (f : Failure) :=
    Failure.unsupported (b.catalog.reword c.text) y (some f) []
  have hsku : b.part (b.leaf .standard .postMeta) sku
      = .ok [(.text "key", .text "sku"), (.text "compare", .text "EXISTS")] := by
    rw [Builder.part, Value.isJunctionKind_comparison, if_neg Bool.false_ne_true, leaf_expr,
      Value.isJunctionKind_comparison, if_neg Bool.false_ne_true]
    cbv
  have hclause : b.clauseIn .postMeta (.comparison .equal)
      [.field (.text "tax") (.text "color"), .literal (.int 1)] false
        = .error (.refused fault) := by
    cbv
  have hcolor : b.part (b.leaf .standard .postMeta) color
      = .error (.refused (refused .metaCompare color fault)) := by
    rw [Builder.part, Value.isJunctionKind_comparison, if_neg Bool.false_ne_true, leaf_expr,
      Value.isJunctionKind_comparison, if_neg Bool.false_ne_true, hclause]
    rfl
  have hgroup : b.part (b.leaf .standard .postMeta) group
      = .error (.refused (refused .relation group (refused .metaCompare color fault))) := by
    rw [Builder.part, Value.isJunctionKind_junction, if_pos rfl, relation_expr, relationTerms_cons,
      hcolor]
    rfl
  have hx : Outcome.ofAttempt (b.standardRelation .postMeta x) = .ok ⟨none, some
      (refused .relation x (refused .relation group (refused .metaCompare color fault)))⟩ := by
    rw [Builder.standardRelation, relation_expr, relationTerms_cons, hsku, relationTerms_cons,
      hgroup]
    rfl
  obtain ⟨hvalue, -, path, htrail, hchain, hends⟩ :=
    standardRelation_refusal_path b .postMeta _ _ _ _ _ hx rfl
  cases htrail
  exact ⟨_, _, hx, rfl, hvalue, rfl, hchain, hends⟩

end PostQuery
