import PostQuery.Proofs.Arguments.Order
import PostQuery.Proofs.Tree.Canonical

/-!
# Arguments of trees of one form

Two trees of one form make the same arguments, or neither makes any. Node by node the builder finds
the same operators, and the same operands once the terms of a comparison are a name and at most one
literal, so everything it does with the one tree it does with the other.

Any other terms are hopeless, but they need not fail in the same way. The first that is wrong is
reported, and which one is first depends on their order: it may be refused for not belonging there,
or break because its entity cannot be compared. A refusal lets the next strategy be tried and a
break does not. That makes no difference, because none of the strategies succeeds. `Tied` says so of
all ways to build a tree at once, and that is what goes up from the terms of a group to the group.
-/

namespace PostQuery

/-! ## Two attempts -/

/-- The two attempts end alike: in the same thing built, both in a refusal, or both in a break. -/
inductive Alike {α : Type} : Attempt α → Attempt α → Prop
  | ok (y : α) : Alike (.ok y) (.ok y)
  | refused (f f' : Failure) : Alike (.error (.refused f)) (.error (.refused f'))
  | broken (m m' : Misuse) : Alike (.error (.broken m)) (.error (.broken m'))

namespace Alike

variable {α β : Type} {a a' : Attempt α}

theorem refl (a : Attempt α) : Alike a a := by
  match a with
  | .ok y => exact ok y
  | .error (.refused f) => exact refused f f
  | .error (.broken m) => exact broken m m

theorem bind {g g' : α → Attempt β} (ha : Alike a a') (hg : ∀ y, a = .ok y → Alike (g y) (g' y)) :
    Alike (a >>= g) (a' >>= g') := by
  cases ha with
  | ok y => exact hg y rfl
  | refused f f' => exact refused f f'
  | broken m m' => exact broken m m'

theorem map (g : α → β) (ha : Alike a a') : Alike (a.map g) (a'.map g) := by
  cases ha with
  | ok y => exact ok (g y)
  | refused f f' => exact refused f f'
  | broken m m' => exact broken m m'

theorem refuseWith (b : Builder) (c : Complaint) (x x' : Value) (cause cause' : Option Failure)
    (causes causes' : List Failure) :
    Alike (b.refuseWith c x cause causes : Attempt α) (b.refuseWith c x' cause' causes') := by
  rw [Builder.refuseWith, Builder.refuseWith]
  cases b.standIns.catalog with
  | none => exact refused _ _
  | some v => exact broken _ _

theorem within (b : Builder) (c : Complaint) (x x' : Value) (ha : Alike a a') :
    Alike (b.within c x a) (b.within c x' a') := by
  cases ha with
  | ok y => exact ok y
  | refused f f' => exact refuseWith b c x x' _ _ _ _
  | broken m m' => exact broken m m'

theorem eq_ok_iff (ha : Alike a a') (y : α) : a = .ok y ↔ a' = .ok y := by
  cases ha <;> simp

end Alike

/-- Two families of attempts are tied: each of one ends like that of the other, or none of them
succeeds. -/
inductive Tied {ι α : Type} (a a' : ι → Attempt α) : Prop
  | alike (h : ∀ i, Alike (a i) (a' i))
  | hopeless (h : ∀ i y, a i ≠ .ok y) (h' : ∀ i y, a' i ≠ .ok y)

namespace Tied

variable {ι α : Type} {a a' : ι → Attempt α}

theorem refl (a : ι → Attempt α) : Tied a a := .alike fun i => .refl (a i)

theorem reindex {κ : Type} (g : κ → ι) (ha : Tied a a') :
    Tied (fun k => a (g k)) (fun k => a' (g k)) := by
  cases ha with
  | alike h => exact .alike fun k => h (g k)
  | hopeless h h' => exact .hopeless (fun k => h (g k)) fun k => h' (g k)

theorem exists_of_cons_eq_ok {a : Attempt α} {r : Attempt (List α)} {ys : List α}
    (h : (a >>= fun y => r >>= fun zs => pure (y :: zs)) = .ok ys) :
    (∃ y, a = .ok y) ∧ ∃ zs, r = .ok zs := by
  obtain ⟨y, hy, h⟩ := bind_eq_ok.1 h
  obtain ⟨zs, hzs, -⟩ := bind_eq_ok.1 h
  exact ⟨⟨y, hy⟩, zs, hzs⟩

theorem cons {r r' : ι → Attempt (List α)} (ha : Tied a a') (hr : Tied r r') :
    Tied (fun i => a i >>= fun y => r i >>= fun ys => pure (y :: ys))
      (fun i => a' i >>= fun y => r' i >>= fun ys => pure (y :: ys)) := by
  cases ha with
  | alike ha =>
      cases hr with
      | alike hr => exact .alike fun i => (ha i).bind fun y _ => (hr i).bind fun ys _ => .refl _
      | hopeless hr hr' =>
          refine .hopeless (fun i ys h => ?_) (fun i ys h => ?_)
          · obtain ⟨-, zs, hzs⟩ := exists_of_cons_eq_ok h
            exact hr i zs hzs
          · obtain ⟨-, zs, hzs⟩ := exists_of_cons_eq_ok h
            exact hr' i zs hzs
  | hopeless ha ha' =>
      refine .hopeless (fun i ys h => ?_) (fun i ys h => ?_)
      · obtain ⟨⟨y, hy⟩, -⟩ := exists_of_cons_eq_ok h
        exact ha i y hy
      · obtain ⟨⟨y, hy⟩, -⟩ := exists_of_cons_eq_ok h
        exact ha' i y hy

end Tied

/-! ## Operands -/

theorem AreOperands.perm {field : Value} {terms terms' : List Value} {literal : Option Value}
    (h : AreOperands field terms literal) (hperm : terms.Perm terms') :
    AreOperands field terms' literal := by
  cases h with
  | alone =>
      rw [← List.singleton_perm.1 hperm]
      exact .alone
  | before v =>
      obtain rfl | rfl := List.pair_perm.1 hperm
      · exact .before v
      · exact .after v
  | after v =>
      obtain rfl | rfl := List.pair_perm.1 hperm
      · exact .after v
      · exact .before v

/-- The scan ends in the same way wherever the literal is. -/
theorem operands_eq {field? : Value → Attempt (Option Value)}
    (hliteral : ∀ v, field? (.literal v) = .ok none) {field : Value} {terms : List Value}
    {literal : Option Value} (hfield : field.literal? = none)
    (h : AreOperands field terms literal) (literalOptional : Bool) :
    operands field? terms literalOptional
      = operands field? (field :: literal.toList.map .literal) literalOptional := by
  cases h with
  | alone => rfl
  | before v => rfl
  | after v =>
      have hscan : scanOperands field? [.literal v, field] none none
          = scanOperands field? [field, .literal v] none none := by
        rw [scanOperands_cons, scanOperands_cons]
        simp only [hliteral, Option.isSome_none, Bool.false_eq_true, if_false]
        change scanOperands field? [field] none (some v) = _
        rw [scanOperands_cons]
        simp only [Option.isSome_none, Bool.false_eq_true, if_false]
        cases field? field with
        | error o => rfl
        | ok taken =>
            cases taken with
            | some name => rfl
            | none => cases field <;> first | rfl | cases hfield
      rw [operands, hscan]
      rfl

/-- The terms are a name, which is neither a node nor a literal, and at most one literal. -/
def HasOperands (terms : List Value) : Prop :=
  ∃ field literal, field.isExpr = false ∧ field.literal? = none ∧ AreOperands field terms literal

theorem AreOperands.not_isExpr {field : Value} {terms : List Value} {literal : Option Value}
    (h : AreOperands field terms literal) (hfield : field.isExpr = false) :
    ∀ term ∈ terms, term.isExpr = false := by
  have hliteral : ∀ v, (Value.literal v).isExpr = false := fun _ => rfl
  cases h <;> simp [hfield, hliteral]

/-- Lists without nodes have one form only. -/
theorem eq_of_forall₂_sameForm {xs ys : List Value} (h : List.Forall₂ SameForm xs ys)
    (hys : ∀ y ∈ ys, y.isExpr = false) : xs = ys := by
  induction h with
  | nil => rfl
  | cons hx _ ih =>
      obtain ⟨hnode, hrest⟩ := List.forall_mem_cons.1 hys
      rw [hx.eq_of_not_isExpr (hx.isExpr_eq.trans hnode), ih hrest]

theorem not_isExpr_of_forall₂_sameForm {xs ys : List Value} (h : List.Forall₂ SameForm xs ys)
    (hxs : ∀ x ∈ xs, x.isExpr = false) : ∀ y ∈ ys, y.isExpr = false := by
  induction h with
  | nil => exact hxs
  | cons hx _ ih =>
      obtain ⟨hnode, hrest⟩ := List.forall_mem_cons.1 hxs
      exact List.forall_mem_cons.2 ⟨hx.isExpr_eq.symm.trans hnode, ih hrest⟩

/-- A name and a literal are no nodes, so all that can happen to them is that they change places. -/
theorem areOperands_iff {field : Value} {terms moved terms' : List Value} {literal : Option Value}
    (hfield : field.isExpr = false) (horder : terms.Perm moved)
    (hterms : List.Forall₂ SameForm moved terms') :
    AreOperands field terms literal ↔ AreOperands field terms' literal := by
  constructor
  · intro h
    have hmoved := h.perm horder
    have hnodes := not_isExpr_of_forall₂_sameForm hterms (hmoved.not_isExpr hfield)
    rwa [← eq_of_forall₂_sameForm hterms hnodes]
  · intro h
    rw [← eq_of_forall₂_sameForm hterms (h.not_isExpr hfield)] at h
    exact h.perm horder.symm

/-! ## Comparisons -/

namespace Builder

variable {b : Builder}

/-- A clause has a name and at most one literal, whatever its shape. -/
theorem hasOperands_of_clause {shape : Shape} {kind : Value} {terms : List Value} {negated : Bool}
    {d : Dict} (h : b.clause shape (.expr kind terms negated) = .ok d) : HasOperands terms := by
  have hmode : ∀ mode, b.leaf .standard mode (.expr kind terms negated) = .ok d →
      HasOperands terms := by
    intro mode hleaf
    obtain ⟨-, -, hname, hterms, -, -⟩ := leaf_eq_ok.1 hleaf
    obtain ⟨e, rfl⟩ := fieldName?_eq_ok hname
    exact ⟨_, _, rfl, rfl, hterms⟩
  cases shape with
  | postMeta => exact hmode .postMeta h
  | taxonomy => exact hmode .taxonomy h
  | compare =>
      obtain ⟨-, key, value, token, hparts, -⟩ := compare_eq_ok.1 h
      obtain ⟨raw, -, -, hterms, -⟩ := compareParts_eq_ok.1 hparts
      exact ⟨_, _, rfl, rfl, hterms⟩

theorem alike_resolve {kind kind' : Value} {negated negated' : Bool}
    (h : SameCondition kind negated kind' negated') (ctx : Context) :
    Alike (b.resolve ctx kind negated) (b.resolve ctx kind' negated') := by
  rw [resolve, resolve]
  split
  · exact .broken _ _
  · exact .broken _ _
  · obtain ⟨token, htoken, htoken'⟩ | ⟨f, f', hf, hf'⟩ := h.resolve ctx
    · rw [htoken, htoken']
      exact .ok token
    · rw [hf, hf']
      exact .refused f f'

theorem tied_clause {kind kind' : Value} {terms moved terms' : List Value}
    {negated negated' : Bool} (h : SameCondition kind negated kind' negated')
    (hkind : kind.isJunctionKind = false) (horder : terms.Perm moved)
    (hterms : List.Forall₂ SameForm moved terms') :
    Tied (fun shape => b.clause shape (.expr kind terms negated))
      (fun shape => b.clause shape (.expr kind' terms' negated')) := by
  have hkind' := h.isJunctionKind_eq.trans hkind
  by_cases hoperands : HasOperands terms
  · obtain ⟨field, literal, hnode, hliteral, hfield⟩ := hoperands
    have hfield' := (areOperands_iff hnode horder hterms).1 hfield
    have hsame : ∀ {field? : Value → Attempt (Option Value)},
        (∀ v, field? (.literal v) = .ok none) → ∀ literalOptional,
          operands field? terms literalOptional = operands field? terms' literalOptional := by
      intro field? hnone literalOptional
      rw [operands_eq hnone hliteral hfield, operands_eq hnone hliteral hfield']
    have hclause : ∀ mode, Alike (b.clauseIn mode kind terms negated)
        (b.clauseIn mode kind' terms' negated') := by
      intro mode
      refine .bind (alike_resolve h _) fun token _ => ?_
      rw [hsame fun _ => rfl]
      exact .refl _
    have hleaf : ∀ mode, Alike (b.leaf .standard mode (.expr kind terms negated))
        (b.leaf .standard mode (.expr kind' terms' negated')) := by
      intro mode
      rw [leaf_expr, leaf_expr, hkind, hkind']
      exact .within _ _ _ _ (hclause mode)
    refine .alike fun shape => ?_
    cases shape with
    | postMeta => exact hleaf .postMeta
    | taxonomy => exact hleaf .taxonomy
    | compare =>
        have hparts : Alike (b.compareParts kind terms negated)
            (b.compareParts kind' terms' negated') := by
          refine .bind (alike_resolve h _) fun token _ => ?_
          rw [hsame fun _ => rfl]
          exact .refl _
        rw [compare_expr, compare_expr, hkind, hkind']
        exact .bind (.within _ _ _ _ hparts) fun _ _ => .refl _
  · refine .hopeless (fun shape d hd => hoperands (hasOperands_of_clause hd)) fun shape d hd => ?_
    obtain ⟨field, literal, hnode, hliteral, hfield⟩ := hasOperands_of_clause hd
    have hfield' := (areOperands_iff hnode horder hterms).2 hfield
    exact hoperands ⟨field, literal, hnode, hliteral, hfield'⟩

/-- A comparison is no group, so it makes no block. -/
theorem alike_relation {kind kind' : Value} {negated negated' : Bool}
    (h : SameCondition kind negated kind' negated') (hkind : kind.isJunctionKind = false)
    (terms terms' : List Value) (mode : Mode) :
    Alike (b.standardRelation mode (.expr kind terms negated))
        (b.standardRelation mode (.expr kind' terms' negated')) ∧
      ∀ d, b.standardRelation mode (.expr kind terms negated) ≠ .ok d := by
  have hresolve : ∀ token, b.resolve .relation kind negated ≠ .ok token := by
    intro token htoken
    obtain ⟨-, j, hj, -⟩ := Context.resolve_relation_eq_ok.1 (context_resolve_of_resolve htoken)
    rw [h.junction?_eq_none hkind] at hj
    cases hj
  constructor
  · rw [standardRelation, standardRelation, relation_expr, relation_expr]
    refine .within _ _ _ _ (.bind (alike_resolve h _) fun token htoken => ?_)
    exact absurd htoken (hresolve token)
  · intro d hd
    obtain ⟨token, -, htoken, -⟩ := relation_expr_eq_ok.1 hd
    exact hresolve token htoken

/-! ## Groups -/

mutual

theorem tied_relation (x y : Value) (h : SameForm x y) :
    Tied (fun mode => b.standardRelation mode x) (fun mode => b.standardRelation mode y) := by
  cases x with
  | expr kind terms negated =>
      cases h with
      | refl => exact .refl _
      | comparison h hkind _ _ => exact .alike fun mode => (alike_relation h hkind _ _ mode).1
      | group hspelled hspelled' hkind hterms =>
          have hcondition : SameCondition kind negated _ negated := .respelled hspelled hspelled'
          have hresolve := alike_resolve (b := b) hcondition .relation
          cases tied_relationTerms terms _ hterms with
          | alike hparts =>
              refine .alike fun mode => ?_
              rw [standardRelation, standardRelation, relation_expr, relation_expr]
              exact .within _ _ _ _ (.bind hresolve fun token _ => .map _ (hparts mode))
          | hopeless hparts hparts' =>
              refine .hopeless (fun mode d hd => ?_) fun mode d hd => ?_
              · obtain ⟨-, parts, -, hmade, -⟩ := relation_expr_eq_ok.1 hd
                exact hparts mode parts hmade
              · obtain ⟨-, parts, -, hmade, -⟩ := relation_expr_eq_ok.1 hd
                exact hparts' mode parts hmade
  | _ =>
      cases h
      exact .refl _

theorem tied_relationTerms (terms terms' : List Value) (h : List.Forall₂ SameForm terms terms') :
    Tied (fun mode => b.relationTerms (b.leaf .standard mode) terms)
      (fun mode => b.relationTerms (b.leaf .standard mode) terms') := by
  match terms, terms', h with
  | [], [], .nil => exact .refl _
  | term :: rest, term' :: rest', .cons hterm hrest =>
      have hparts : Tied (fun mode => b.part (b.leaf .standard mode) term)
          (fun mode => b.part (b.leaf .standard mode) term') := by
        cases term with
        | expr kind terms negated =>
            cases hterm with
            | refl => exact .refl _
            | group hspelled hspelled' hkind hterms =>
                have hkind' := (hspelled.isJunctionKind_eq hspelled').trans hkind
                simp only [part, hkind, hkind', if_true]
                exact tied_relation (.expr kind terms negated) _
                  (.group hspelled hspelled' hkind hterms)
            | comparison h hkind horder hterms =>
                have hkind' := h.isJunctionKind_eq.trans hkind
                simp only [part, hkind, hkind', Bool.false_eq_true, if_false, leaf_standard]
                exact (tied_clause h hkind horder hterms).reindex Mode.shape
        | _ =>
            cases hterm
            exact .refl _
      simp only [relationTerms_cons]
      exact hparts.cons (tied_relationTerms rest rest' hrest)

end

/-! ## Arguments -/

theorem attempt_ne_ok {x : Value} (hrelation : ∀ mode block, b.standardRelation mode x ≠ .ok block)
    (hcompare : ∀ d, b.clause .compare x ≠ .ok d) (s : Strategy) (d : Dict) :
    s.attempt b x ≠ .ok d := by
  intro h
  by_cases hs : s = .compare
  · rw [hs] at h
    exact hcompare d h
  · obtain ⟨mode, block, hblock⟩ := exists_relation_of_attempt hs h
    exact hrelation mode block hblock

theorem alike_attempt {x y : Value}
    (hrelation : ∀ mode, Alike (b.standardRelation mode x) (b.standardRelation mode y))
    (hcompare : Alike (b.clause .compare x) (b.clause .compare y)) (s : Strategy) :
    Alike (s.attempt b x) (s.attempt b y) := by
  cases s with
  | metaQuery => exact (hrelation .postMeta).map _
  | taxonomyQuery => exact (hrelation .taxonomy).map _
  | compare => exact hcompare

/-- A group makes no clause and a comparison no block, so where one of the strategies that are left
is hopeless all are. -/
theorem tied_attempt {x y : Value} (h : SameForm x y) :
    Tied (fun s : Strategy => s.attempt b x) (fun s => s.attempt b y) := by
  cases h with
  | refl => exact .refl _
  | @group word kind kind' terms terms' negated hspelled hspelled' hkind hterms =>
      have hkind' := (hspelled.isJunctionKind_eq hspelled').trans hkind
      cases tied_relation (b := b) _ _ (.group hspelled hspelled' hkind hterms) with
      | alike hblock =>
          refine .alike (alike_attempt hblock ?_)
          rw [compare_expr, compare_expr, hkind, hkind']
          exact .refuseWith _ _ _ _ _ _ _ _
      | hopeless hblock hblock' =>
          refine .hopeless (attempt_ne_ok hblock fun d hd => ?_)
            (attempt_ne_ok hblock' fun d hd => ?_)
          · exact Bool.false_ne_true ((compare_eq_ok.1 hd).1.symm.trans hkind)
          · exact Bool.false_ne_true ((compare_eq_ok.1 hd).1.symm.trans hkind')
  | @comparison kind kind' terms moved terms' negated negated' h hkind horder hterms =>
      have hrelation := alike_relation (b := b) h hkind terms terms'
      cases tied_clause (b := b) h hkind horder hterms with
      | alike hclause =>
          exact .alike (alike_attempt (fun mode => (hrelation mode).1) (hclause .compare))
      | hopeless hclause hclause' =>
          refine .hopeless (attempt_ne_ok (fun mode => (hrelation mode).2) (hclause .compare))
            (attempt_ne_ok (fun mode block hblock => ?_) (hclause' .compare))
          exact (hrelation mode).2 block (((hrelation mode).1.eq_ok_iff block).2 hblock)

theorem firstSuccess_iff {x y : Value}
    (h : Tied (fun s : Strategy => s.attempt b x) (fun s => s.attempt b y)) (ss : List Strategy)
    (failures failures' : List Failure) (d : Dict) :
    b.firstSuccess x ss failures = .ok d ↔ b.firstSuccess y ss failures' = .ok d := by
  cases h with
  | hopeless h h' =>
      constructor
      · intro hd
        obtain ⟨s, -, hs⟩ := exists_attempt_of_firstSuccess hd
        exact absurd hs (h s d)
      · intro hd
        obtain ⟨s, -, hs⟩ := exists_attempt_of_firstSuccess hd
        exact absurd hs (h' s d)
  | alike h =>
      induction ss generalizing failures failures' with
      | nil => exact (Alike.refuseWith b _ x y _ _ _ _).eq_ok_iff d
      | cons s rest ih =>
          have hs : Alike (s.attempt b x) (s.attempt b y) := h s
          rw [firstSuccess, firstSuccess]
          generalize s.attempt b x = a, s.attempt b y = a' at hs
          cases hs with
          | ok made => exact Iff.rfl
          | refused f f' => exact ih _ _
          | broken m m' => simp

theorem rootTerm_iff {x y : Value} (h : SameForm x y) (ss : List Strategy) (d : Dict) :
    b.rootTerm ss x = .ok d ↔ b.rootTerm ss y = .ok d := by
  rw [rootTerm, rootTerm, h.isExpr_eq]
  split
  · exact firstSuccess_iff (tied_attempt h) ss [] [] d
  · exact (Alike.refuseWith b _ x y _ _ _ _).eq_ok_iff d

/-- What a tree is built into, if anything, depends on its form and not on how it is written: how
its kinds are spelled, where in a comparison the literal stands, and which of two opposites is
negated. -/
theorem arguments_canonical (b : Builder) (ss : List Strategy) (x y : Value) (h : SameForm x y)
    (d : Dict) : b.arguments ss x = .ok d ↔ b.arguments ss y = .ok d := by
  have hrefuse := (Alike.refuseWith (α := Dict) b .root x y none none [] []).eq_ok_iff d
  have hroot := h.isRoot_eq
  rw [arguments.eq_def, arguments.eq_def, hroot]
  split
  · next hy =>
      cases h with
      | refl => exact Iff.rfl
      | group _ _ _ hterms =>
          exact rootTerms_congr (hterms.imp fun _ _ hterm => rootTerm_iff hterm ss) []
      | comparison _ hkind _ _ =>
          rw [← hroot, Value.isRoot_of_not_isJunctionKind hkind] at hy
          cases hy
  · exact hrefuse

/-- The same two conditions twice. The second time the kinds are texts in one case or another, the
literals come first, and either condition is written as the negation of its opposite. -/
theorem arguments_canonical_of_rewritten :
    let price := Value.field (.text "meta") (.text "price")
    let author := Value.variable (.text "author")
    let x := Value.expr (.junction .and)
      [.expr (.junction .and) [.expr (.comparison .equal) [price, .literal (.int 5)] true] false,
        .expr (.comparison .greater) [author, .literal (.int 7)] false] false
    let y := Value.expr (.text "\tAnd ")
      [.expr (.text "AND") [.expr (.text " !=") [.literal (.int 5), price] false] false,
        .expr (.text "<=") [.literal (.int 7), author] true] false
    let clause : Dict := [(.text "key", .text "price"), (.text "value", .int 5),
      (.text "type", .text "NUMERIC"), (.text "compare", .text "!=")]
    let d : Dict := [(.text "meta_query", .dict (block .and [clause])), (.text "author", .int 7),
      (.text "compare", .text ">")]
    let b : Builder := {}
    SameForm x y ∧ b.arguments Strategy.standard x = .ok d ∧
      b.arguments Strategy.standard y = .ok d := by
  intro price author x y clause d b
  have hand : IsSpelled "and" (.text "\tAnd ") := by
    have hspelled : IsSpelled "and"
        (.text (String.ofList (['\t'] ++ (['A', 'n', 'd'] ++ [' '])))) := by
      apply isSpelled_of_case <;> simp [Text.isBlank, Text.inRuns, Text.blankRuns]
    exact hspelled
  have hprice : SameForm (.expr (.comparison .equal) [price, .literal (.int 5)] true)
      (.expr (.text " !=") [.literal (.int 5), price] false) :=
    .comparison (.opposite rfl (.comparison rfl) (.text (by decide)))
      (Value.isJunctionKind_comparison _) (.swap _ _ []) (List.forall₂_same.2 fun z _ => .refl z)
  have hauthor : SameForm (.expr (.comparison .greater) [author, .literal (.int 7)] false)
      (.expr (.text "<=") [.literal (.int 7), author] true) :=
    .comparison (.opposite rfl (.comparison rfl) (.text (by decide)))
      (Value.isJunctionKind_comparison _) (.swap _ _ []) (List.forall₂_same.2 fun z _ => .refl z)
  have hform : SameForm x y := by
    refine .group (.junction rfl) hand (Value.isJunctionKind_junction _)
      (.cons ?_ (.cons hauthor .nil))
    exact .group (.junction rfl) (.text (by decide)) (Value.isJunctionKind_junction _)
      (.cons hprice .nil)
  have hclause : b.leaf .standard .postMeta
      (.expr (.comparison .equal) [price, .literal (.int 5)] true) = .ok clause := by
    refine leaf_eq_ok.2 ⟨Value.isJunctionKind_comparison _, metaClause_eq_ok.1 ?_⟩
    cbv
  have hgroup : b.rootTerm Strategy.standard
      (.expr (.junction .and) [.expr (.comparison .equal) [price, .literal (.int 5)] true] false)
        = .ok [(.text "meta_query", .dict (block .and [clause]))] :=
    rootTerm_of_metaQuery (relation_expr_eq_ok.2 ⟨_, _, rfl, relationTerms_eq_ok.2
      (.cons (.comparison (Value.isJunctionKind_comparison _) hclause) .nil), rfl⟩)
  have hplain : b.rootTerm Strategy.standard
      (.expr (.comparison .greater) [author, .literal (.int 7)] false)
        = .ok [(.text "author", .int 7), (.text "compare", .text ">")] := by
    have hmakes : b.Makes (.expr (.comparison .greater) [author, .literal (.int 7)] false)
        ⟨"author", .int 7, .greater⟩ := makes_of_resolve rfl rfl
    obtain hok | ⟨hcatalog, -⟩ := rootTerm_of_makes hmakes
    · rw [hok]
      cbv
    · exact absurd rfl hcatalog
  have hbuilt : b.arguments Strategy.standard x = .ok d := by
    change b.rootTerms Strategy.standard _ [] = _
    simp only [rootTerms, hgroup, hplain]
    cbv
  exact ⟨hform, hbuilt, (arguments_canonical b Strategy.standard x y hform d).1 hbuilt⟩

end Builder

end PostQuery
