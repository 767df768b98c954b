import PostQuery.Proofs.Relation.Built

/-!
# What a block means

A block is read by what its entries say: the junction under `relation` combines the parts under its
numbers, and an entry with no relation is a clause, whose operator is the assumed one if there is
none. What a clause with an operator means is left to an interpretation, of which nothing is known
but that opposite operators are complements of each other.

Against that stands the tree, with `Value.holds` for its groups and the operator of each comparison
for its leaves. The tree complements where it is negated, and the block has no word for that: it has
the opposite operator instead. That the two agree is the reason for the tables of operators, and
checked here of each of their entries.
-/

namespace PostQuery

/-- The operators that are each other's complement. -/
def opposites : List (String × String) :=
  [("=", "!="), (">", "<="), (">=", "<"), ("IN", "NOT IN"), ("LIKE", "NOT LIKE"),
   ("BETWEEN", "NOT BETWEEN"), ("EXISTS", "NOT EXISTS"), ("REGEXP", "NOT REGEXP")]

/-- The truth values of conditions: of a field with an operator and a value, if there is one, among
the post meta or the taxonomies. -/
structure Interpretation where
  verdict : Mode → Value → String → Option Value → Bool
  opposite : ∀ p ∈ opposites, ∀ mode field operand,
    verdict mode field p.2 operand = !verdict mode field p.1 operand

/-- There is one for which nothing holds but what no operator denies. -/
instance : Inhabited Interpretation where
  default := {
    verdict := fun _ _ operator _ => opposites.any fun p => p.1 == operator
    opposite := fun p hp _ _ _ => by
      revert p
      decide }

/-- The operator that a comparison asks for: among taxonomies, to equal is to be among the terms. -/
def Comparison.operator : Mode → Comparison → String
  | .postMeta, .equal => "="
  | .postMeta, .notEqual => "!="
  | .taxonomy, .equal => "IN"
  | .taxonomy, .notEqual => "NOT IN"
  | _, .greater => ">"
  | _, .greaterEqual => ">="
  | _, .less => "<"
  | _, .lessEqual => "<="
  | _, .like => "LIKE"
  | _, .among => "IN"
  | _, .notAmong => "NOT IN"
  | _, .between => "BETWEEN"
  | _, .present => "EXISTS"
  | _, .pattern => "REGEXP"
  | _, .every => "AND"

/-- A comparison with a list of values: each of them among taxonomies, and that of being in it. -/
def Comparison.listsOperand : Mode → Comparison → Bool
  | .taxonomy, _ => true
  | .postMeta, .among => true
  | .postMeta, .notAmong => true
  | .postMeta, _ => false

/-- The value of a comparison: the normal form of the first literal, if there is one. -/
def operand? (mode : Mode) (c : Comparison) (terms : List Value) : Option Value :=
  (terms.findSome? Value.literal?).map fun raw =>
    match raw.normal with
    | .ok value => if c.listsOperand mode then .list value.asList else value
    | .error v => v

namespace Interpretation

/-- The truth value of a clause. -/
def clause (I : Interpretation) (mode : Mode) (d : Dict) : Bool :=
  match d.get? (.text mode.fieldKey) with
  | none => false
  | some field =>
    let operator :=
      match d.get? (.text mode.operatorKey) with
      | some (.text operator) => operator
      | _ => mode.assumed
    I.verdict mode field operator (d.get? (.text mode.operandKey))

/-- The truth value of a comparison of a tree, which is about the first field among its terms. -/
def leaf (I : Interpretation) (mode : Mode) (kind : Value) (terms : List Value) : Bool :=
  match kind.comparison?, terms.findSome? Value.fieldName? with
  | some c, some field => I.verdict mode field (c.operator mode) (operand? mode c terms)
  | _, _ => false

end Interpretation

/-- The junction that an entry under `relation` stands for. -/
def relation? : Value → Option Junction
  | .text s => Junction.ofName? s
  | _ => none

mutual

/-- The truth value of a block, given those of its clauses. -/
def blockHolds (clause : Dict → Bool) : Value → Bool
  | .dict entries =>
    match (Dict.get? entries (.text "relation")).bind relation? with
    | some j => j.joins (partsHold clause entries)
    | none => clause entries
  | _ => false

/-- The truth values of the parts of a block, which are numbered. -/
def partsHold (clause : Dict → Bool) : List (Value × Value) → List Bool
  | [] => []
  | (key, value) :: rest =>
    match key with
    | .int _ => blockHolds clause value :: partsHold clause rest
    | _ => partsHold clause rest

end

/-! ## Operators

An operator is found by the key of a kind, and so is the comparison that the kind is spelled as. -/

namespace Mode

/-- The tables, entry by entry: what a negated comparison gets is the opposite of its operator, and
whether a list is taken is the same for both. -/
theorem operator_of_pair? {mode : Mode} {c : Comparison} {negated : Bool} {token : Token}
    (h : ((mode.pair? c).bind fun pair => pair.token? negated) = some token) :
    (if negated then
        (c.operator mode, token.text) ∈ opposites ∨ (token.text, c.operator mode) ∈ opposites
      else token.text = c.operator mode) ∧
      (mode = .postMeta → token.takesList = c.listsOperand mode) := by
  cases mode <;> cases c <;> cases negated <;> cases h <;> decide

end Mode

/-- An operator that was found is that of a comparison, or the opposite of it. -/
theorem verdict_of_token? {mode : Mode} {kind : Value} {negated : Bool} {token : Token}
    (h : mode.token? kind negated = some token) :
    ∃ c, kind.comparison? = some c ∧
      (mode = .postMeta → token.takesList = c.listsOperand mode) ∧
      ∀ (I : Interpretation) field operand,
        I.verdict mode field token.text operand
          = (negated ^^ I.verdict mode field (c.operator mode) operand) := by
  rw [Mode.token?, Option.bind_assoc] at h
  obtain ⟨c, hc, htaken⟩ := Option.bind_eq_some_iff.1 h
  have htable := Mode.operator_of_pair? htaken
  refine ⟨c, hc, htable.2, fun I field operand => ?_⟩
  cases negated with
  | false =>
      rw [Bool.false_xor]
      exact congrArg (I.verdict mode field · operand) htable.1
  | true =>
      rw [Bool.true_xor]
      obtain hin | hin := htable.1
      · exact I.opposite _ hin mode field operand
      · rw [I.opposite _ hin mode field operand, Bool.not_not]

/-! ## Clauses -/

/-- The entries by which a clause is read: its field, its value if there is one, and its operator
unless that is assumed. -/
structure IsClause (mode : Mode) (d : Dict) (name : Value) (token : Token)
    (operand : Option Value) : Prop where
  field : d.get? (.text mode.fieldKey) = some name
  operand : d.get? (.text mode.operandKey) = operand
  operator : d.get? (.text mode.operatorKey) = some (.text token.text) ∨
    d.get? (.text mode.operatorKey) = none ∧ token.text = mode.assumed
  relation : d.get? (.text "relation") = none

theorem IsClause.clause {mode : Mode} {d : Dict} {name : Value} {token : Token}
    {operand : Option Value} (h : IsClause mode d name token operand) (I : Interpretation) :
    I.clause mode d = I.verdict mode name token.text operand := by
  rw [Interpretation.clause, h.field, h.operand]
  obtain hwritten | ⟨hnone, hassumed⟩ := h.operator
  · rw [hwritten]
  · rw [hnone, hassumed]

variable {b : Builder} {kind : Value} {terms : List Value} {negated : Bool} {d : Dict}

theorem isClause_of_entries {mode : Mode} {name : Value} {token : Token} {operand : Option Value}
    {entries : Dict} (hoperand : entries.get? (.text mode.operandKey) = operand)
    (hoperator : entries.get? (.text mode.operatorKey) = none)
    (hrelation : entries.get? (.text "relation") = none) :
    IsClause mode
      ((.text mode.fieldKey, name) :: (entries ++ b.written mode.context mode.operatorKey token))
      name token operand := by
  constructor
  case field => rw [Dict.get?_cons_text, BEq.rfl, if_pos rfl]
  case operand =>
    rw [get?_clause_of_ne b (by cases mode <;> decide) (by cases mode <;> decide), hoperand]
  case operator =>
    rw [get?_clause (by cases mode <;> decide), hoperator, Option.none_or, ← mode.default_context]
    obtain hwritten | ⟨hwritten, hassumed⟩ :=
      b.written_cases mode.context mode.operatorKey token
    · exact .inl (by rw [hwritten, Dict.get?_cons_text, BEq.rfl, if_pos rfl])
    · exact .inr ⟨by rw [hwritten, Dict.get?_nil], hassumed⟩
  case relation =>
    rw [get?_clause_of_ne b (by cases mode <;> decide) (by cases mode <;> decide), hrelation]

theorem isClause_of_builds {mode : Mode} (h : BuildsClause b mode kind terms negated d) :
    ∃ token name, mode.token? kind negated = some token ∧
      terms.findSome? Value.fieldName? = some name ∧
      ∀ c : Comparison, (mode = .postMeta → token.takesList = c.listsOperand mode) →
        IsClause mode d name token (operand? mode c terms) := by
  obtain ⟨htoken, hfield, hterms, htakes, hoperator⟩ := h
  obtain ⟨e, rfl⟩ := fieldName?_eq_ok hfield
  have hresolve := Mode.resolve_context_eq_ok.1 (Builder.context_resolve_of_resolve htoken)
  refine ⟨_, _, hresolve, hterms.findSome?_name rfl fun _ => rfl, fun c hlist => ?_⟩
  rw [operand?, hterms.findSome?_literal rfl, Builder.operatorEntry_eq_ok hoperator]
  cases htakes with
  | none _ => exact isClause_of_entries rfl rfl rfl
  | some hnormal _ =>
      rw [Option.map_some, hnormal]
      cases mode with
      | postMeta =>
          rw [← hlist rfl]
          refine isClause_of_entries ?_ ?_ ?_
          · simp [Mode.operandEntries, Mode.operandKey]
          · simp [Mode.operandEntries, Mode.operatorKey]
          · simp [Mode.operandEntries]
      | taxonomy =>
          refine isClause_of_entries ?_ ?_ ?_
          · simp [Mode.operandEntries, Mode.operandKey, Comparison.listsOperand]
          · simp [Mode.operandEntries, Mode.operatorKey]
          · simp [Mode.operandEntries]

/-- The clause of a comparison says what the comparison does, with the negation in its operator. -/
theorem blockHolds_leaf (I : Interpretation) {mode : Mode}
    (h : b.leaf .standard mode (.expr kind terms negated) = .ok d) :
    blockHolds (I.clause mode) (.dict d)
      = (Value.expr kind terms negated).holds (I.leaf mode) := by
  obtain ⟨token, name, htoken, hname, hclause⟩ := isClause_of_builds (leaf_eq_ok.1 h).2
  obtain ⟨c, hc, hlist, hverdict⟩ := verdict_of_token? htoken
  have hd := hclause c hlist
  rw [blockHolds, hd.relation, Value.holds, Value.junction?_eq_none hc, Interpretation.leaf, hc,
    hname]
  exact (hd.clause I).trans (hverdict I name _)

/-! ## Blocks -/

theorem partsHold_numbered (clause : Dict → Bool) (parts : List Dict) (n : Nat) :
    partsHold clause ((parts.zipIdx n).map fun p => (.int p.2, .dict p.1))
      = parts.map fun d => blockHolds clause (.dict d) := by
  induction parts generalizing n with
  | nil => rfl
  | cons d rest ih =>
      rw [List.zipIdx_cons, List.map_cons, List.map_cons, ← ih (n + 1)]
      rfl

theorem blockHolds_block (clause : Dict → Bool) (j : Junction) (parts : List Dict) :
    blockHolds clause (.dict (Builder.block (Context.relationPair j).plain parts))
      = j.joins (parts.map fun d => blockHolds clause (.dict d)) := by
  have h : relation? (.text (Context.relationPair j).plain.text) = some j := by
    cases j <;> rfl
  rw [blockHolds, Builder.block, Dict.get?_cons_text, BEq.rfl, if_pos rfl, Option.bind_some, h]
  exact congrArg j.joins (partsHold_numbered clause parts 0)

/-- The block says what the tree does. -/
def Interpretation.Agrees (I : Interpretation) (mode : Mode) (x : Value) (d : Dict) : Prop :=
  blockHolds (I.clause mode) (.dict d) = x.holds (I.leaf mode)

theorem blockHolds_parts (I : Interpretation) {mode : Mode} {terms : List Value}
    {parts : List Dict}
    (h : List.Forall₂ (IsPartOf (I.Agrees mode) (b.leaf .standard mode)) terms parts) :
    (parts.map fun d => blockHolds (I.clause mode) (.dict d))
      = Value.holdEach (I.leaf mode) terms := by
  induction h with
  | nil => rfl
  | cons hterm _ ih =>
      rw [List.map_cons, ih, Value.holdEach]
      cases hterm with
      | group _ hpart => rw [hpart]
      | comparison _ hpart => rw [blockHolds_leaf I hpart]

/-- The block of a group says what the group does. -/
theorem blockHolds_relation (I : Interpretation) {mode : Mode} (x : Value) (d : Dict)
    (h : b.relation (b.leaf .standard mode) x = .ok d) :
    blockHolds (I.clause mode) (.dict d) = x.holds (I.leaf mode) := by
  refine relation_induction (I.Agrees mode) (fun kind terms negated token parts hresolve hparts => ?_)
    x d h
  obtain ⟨rfl, j, hj, rfl⟩ :=
    Context.resolve_relation_eq_ok.1 (Builder.context_resolve_of_resolve hresolve)
  rw [Interpretation.Agrees, blockHolds_block, blockHolds_parts I hparts, Value.holds, hj,
    Bool.false_xor]

/-- A block that is built for a tree says what the tree does, whatever the conditions mean: for
either mode and any settings, and for every interpretation. -/
theorem standardRelation_means (b : Builder) (mode : Mode) (x : Value) (d : Dict)
    (I : Interpretation) (h : b.standardRelation mode x = .ok d) :
    blockHolds (I.clause mode) (.dict d) = x.holds (I.leaf mode) :=
  blockHolds_relation I x d h

/-- A price that is not above five is at most five, and a color that is red needs no operator: a
group within a group, built and read. -/
theorem standardRelation_means_of_nested :
    let price := Value.expr (.comparison .greater)
      [.literal (.int 5), .field (.text "meta") (.text "price")] true
    let color := Value.expr (.comparison .equal)
      [.field (.text "meta") (.text "color"), .literal (.text "red")] false
    let x := Value.expr (.junction .and) [price, .expr (.junction .or) [color] false] false
    let atMost : Dict := [(.text "key", .text "price"), (.text "value", .int 5),
      (.text "type", .text "NUMERIC"), (.text "compare", .text "<=")]
    let red : Dict := [(.text "key", .text "color"), (.text "value", .text "red"),
      (.text "type", .text "CHAR")]
    let d := Builder.block .and [atMost, Builder.block .or [red]]
    ({} : Builder).standardRelation .postMeta x = .ok d ∧
      ∀ I : Interpretation,
        blockHolds (I.clause .postMeta) (.dict d) = x.holds (I.leaf .postMeta) := by
  intro price color x atMost red d
  have hprice : ({} : Builder).leaf .standard .postMeta price = .ok atMost := by
    have hclause : ({} : Builder).metaClause (.comparison .greater)
        [.literal (.int 5), .field (.text "meta") (.text "price")] true = .ok atMost := by
      cbv
    rw [leaf_standard]
    exact (Builder.clause_postMeta_eq_ok (Value.isJunctionKind_comparison _)).2 hclause
  have hcolor : ({} : Builder).leaf .standard .postMeta color = .ok red := by
    have hclause : ({} : Builder).metaClause (.comparison .equal)
        [.field (.text "meta") (.text "color"), .literal (.text "red")] false = .ok red := by
      cbv
    rw [leaf_standard]
    exact (Builder.clause_postMeta_eq_ok (Value.isJunctionKind_comparison _)).2 hclause
  have hinner : ({} : Builder).relation (({} : Builder).leaf .standard .postMeta)
      (.expr (.junction .or) [color] false) = .ok (Builder.block .or [red]) := by
    refine relation_expr_eq_ok.2 ⟨_, _, rfl, relationTerms_expr_eq_ok.2 ⟨_, _, ?_, rfl, rfl⟩, rfl⟩
    rw [Value.isJunctionKind_comparison, if_neg Bool.false_ne_true]
    exact hcolor
  have hbuilt : ({} : Builder).standardRelation .postMeta x = .ok d := by
    refine relation_expr_eq_ok.2 ⟨_, _, rfl, relationTerms_expr_eq_ok.2 ⟨_, _, ?_,
      relationTerms_expr_eq_ok.2 ⟨_, _, ?_, rfl, rfl⟩, rfl⟩, rfl⟩
    · rw [Value.isJunctionKind_comparison, if_neg Bool.false_ne_true]
      exact hprice
    · rw [Value.isJunctionKind_junction, if_pos rfl]
      exact hinner
  exact ⟨hbuilt, fun I => standardRelation_means {} .postMeta x d I hbuilt⟩

end PostQuery
