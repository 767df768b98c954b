import PostQuery.Proofs.Clause.Built
import PostQuery.Proofs.Dict
import PostQuery.Proofs.Tree.Meaning

/-!
# What a built block is made of

Both modes make a clause in the same steps: the operator that the context of the mode has for the
comparison, a field of the entity of the mode with at most one literal, the entries for the literal,
and the entry for the operator. `leaf_eq_ok` says this once for both, with the mode for a parameter.

A block is made of the clauses and blocks of its terms, each of which has to be there.
`relation_expr_eq_ok` and `relationTerms_eq_ok` say that, and `relation_induction` is the induction
over a tree that builds. What is proved about blocks, their meaning, their language and their form,
is proved from these.

What is proved about refusals as well as blocks goes by the equations instead: `clauseIn` are the
steps of a clause with the mode for a parameter, `leaf_expr` and `relation_expr` say where a refusal
is taken for one of the whole, and `relationTerms_cons` goes through the terms.
-/

namespace PostQuery

/-! ## The modes

A clause has its field under one key, its value under another and its operator under a third, and a
missing operator is the assumed one. These words are all that the two modes have of their own for a
reader of clauses; to build one, a mode has its table of operators, its entity, and its say in which
values an operator takes. -/

namespace Mode

def fieldKey : Mode → String
  | .postMeta => "key"
  | .taxonomy => "taxonomy"

def operandKey : Mode → String
  | .postMeta => "value"
  | .taxonomy => "terms"

def operatorKey : Mode → String
  | .postMeta => "compare"
  | .taxonomy => "operator"

def assumed : Mode → String
  | .postMeta => "="
  | .taxonomy => "IN"

def context : Mode → Context
  | .postMeta => .postMeta
  | .taxonomy => .taxonomy

def shape : Mode → Shape
  | .postMeta => .postMeta
  | .taxonomy => .taxonomy

def pair? : Mode → Comparison → Option TokenPair
  | .postMeta => Context.metaPair?
  | .taxonomy => Context.taxonomyPair?

/-- The operator that a mode has for a condition, negated or not. -/
def token? (mode : Mode) (kind : Value) (negated : Bool) : Option Token :=
  (kind.comparison?.bind mode.pair?).bind fun pair => pair.token? negated

/-- The name under which a mode asks the settings for its entity. -/
def setting : Mode → String
  | .postMeta => "meta_entity"
  | .taxonomy => "tax_entity"

def entity : Mode → Settings → Value
  | .postMeta => Settings.metaEntity
  | .taxonomy => Settings.taxonomyEntity

/-- The sizes of the values that an operator takes: among taxonomies there has to be some term,
unless only presence is asked for. -/
def takes : Mode → Token → Option Nat → Bool
  | .postMeta, token, size => token.takesSize size
  | .taxonomy, token, size => token.asksPresence || size != some 0

/-- The entries for a literal with the given normal form. -/
def operandEntries : Mode → Settings → Token → Value → Value → Dict
  | .postMeta, _, token, raw, value =>
    [(.text "value", if token.takesList then .list value.asList else value),
      (.text "type", .text raw.castType.text)]
  | .taxonomy, s, _, _, value =>
    [(.text "field", termField s value.asList), (.text "terms", .list value.asList)]

theorem default_context (mode : Mode) : mode.context.default.text = mode.assumed := by
  cases mode <;> rfl

theorem resolve_context_eq_ok {mode : Mode} {kind : Value} {negated : Bool} {token : Token} :
    mode.context.resolve kind negated = .ok token ↔ mode.token? kind negated = some token := by
  have hpair : ∀ k, mode.context.pair? k = (Comparison.ofText? k).bind mode.pair? := by
    intro k
    cases mode <;> rfl
  rw [Context.resolve_eq_ok, token?, Value.comparison?]
  cases Context.key kind <;> simp [hpair, Option.bind_eq_some_iff]

end Mode

/-- A relation that was found is spelled as the name of the junction that the kind stands for, and
is not negated. -/
theorem Context.resolve_relation_eq_ok {kind : Value} {negated : Bool} {token : Token} :
    Context.relation.resolve kind negated = .ok token ↔
      negated = false ∧ ∃ j, kind.junction? = some j ∧ (relationPair j).plain = token := by
  rw [Context.resolve_eq_ok, Value.junction?]
  cases Context.key kind with
  | error v => simp
  | ok k =>
      cases hj : Junction.ofText? k with
      | none => simp [pair?, hj]
      | some j => cases j <;> cases negated <;> simp [pair?, hj, TokenPair.token?, relationPair]

/-! ## Clauses -/

/-- The entries of a clause for its literal: there are none without one, which only an operator that
asks for presence can do. -/
inductive OperandEntries (s : Settings) (mode : Mode) (token : Token) : Option Value → Dict → Prop
  | none (asks : token.asksPresence = true) : OperandEntries s mode token none []
  | some {raw value : Value} (normal : raw.normal = .ok value)
      (takes : mode.takes token value.size? = true) :
      OperandEntries s mode token (some raw) (mode.operandEntries s token raw value)

/-- The dictionary is the clause that a builder makes of a comparison in a mode. -/
inductive BuildsClause (b : Builder) (mode : Mode) (kind : Value) (terms : List Value)
    (negated : Bool) : Dict → Prop
  | intro {token : Token} {field name : Value} {literal : Option Value} {entries operator : Dict}
      (resolves : b.resolve mode.context kind negated = .ok token)
      (names : fieldName? b mode.setting mode.entity field = .ok (some name))
      (operands : AreOperands field terms literal)
      (takes : OperandEntries b.settings mode token literal entries)
      (writes : b.operatorEntry mode.context mode.operatorKey token = .ok operator) :
      BuildsClause b mode kind terms negated
        ((.text mode.fieldKey, name) :: (entries ++ operator))

/-- What is not the field of a clause is looked up among the entries for its literal, and then in
that for its operator. -/
theorem get?_clause {mode : Mode} {key : String} (hkey : (mode.fieldKey == key) = false)
    (name : Value) (entries operator : Dict) :
    Dict.get? ((.text mode.fieldKey, name) :: (entries ++ operator)) (.text key)
      = (entries.get? (.text key)).or (operator.get? (.text key)) := by
  rw [Dict.get?_cons_text, hkey, if_neg Bool.false_ne_true, Dict.get?_append]

theorem get?_clause_of_ne (b : Builder) {mode : Mode} {key : String}
    (hfield : (mode.fieldKey == key) = false) (hoperator : (mode.operatorKey == key) = false)
    (name : Value) (entries : Dict) (token : Token) :
    Dict.get? ((.text mode.fieldKey, name) ::
      (entries ++ b.written mode.context mode.operatorKey token)) (.text key)
        = entries.get? (.text key) := by
  rw [get?_clause hfield]
  obtain hwritten | ⟨hwritten, -⟩ := b.written_cases mode.context mode.operatorKey token
  · rw [hwritten, Dict.get?_cons_text, hoperator, if_neg Bool.false_ne_true, Dict.get?_nil,
      Option.or_none]
  · rw [hwritten, Dict.get?_nil, Option.or_none]

/-! ### The steps of a clause -/

/-- The entries for the literal of a clause, if it has one. -/
def literalEntries (s : Settings) : Mode → Token → Option Value → Except Failure Dict
  | _, _, none => .ok []
  | .postMeta, token, some raw => do
    let value ← normalValue raw
    let shaped ← metaValue token value
    pure [(.text "value", shaped), (.text "type", .text raw.castType.text)]
  | .taxonomy, token, some raw => do
    let value ← normalValue raw
    if value.asList.isEmpty && !token.asksPresence then throw (.operands (.noTerms token))
    pure [(.text "field", termField s value.asList), (.text "terms", .list value.asList)]

theorem operandEntries_of_literalEntries {s : Settings} {mode : Mode} {token : Token}
    {literal : Option Value} {entries : Dict} :
    OperandEntries s mode token literal entries ↔
      literalEntries s mode token literal = .ok entries ∧
        (literal = none → token.asksPresence = true) := by
  have hempty : ∀ value : Value, (value.asList.isEmpty && !token.asksPresence)
      = !Mode.taxonomy.takes token value.size? := by
    intro value
    rw [Mode.takes, Value.asList, Value.size?]
    cases value.sequence? with
    | none => cases token.asksPresence <;> rfl
    | some items => cases items <;> cases token.asksPresence <;> rfl
  constructor
  · intro h
    cases h with
    | none asks => exact ⟨by cases mode <;> rfl, fun _ => asks⟩
    | some hnormal htakes =>
        refine ⟨?_, fun hnone => absurd hnone (Option.some_ne_none _)⟩
        cases mode with
        | postMeta =>
            rw [literalEntries, bind_eq_ok]
            refine ⟨_, normalValue_eq_ok.2 hnormal, ?_⟩
            rw [bind_eq_ok]
            exact ⟨_, metaValue_eq_ok.2 ⟨htakes, rfl⟩, rfl⟩
        | taxonomy =>
            rw [literalEntries, bind_eq_ok]
            refine ⟨_, normalValue_eq_ok.2 hnormal, ?_⟩
            simp only [hempty, htakes]
            rfl
  · rintro ⟨h, hneeded⟩
    cases literal with
    | none =>
        have hentries : entries = [] := by
          cases mode <;> cases h <;> rfl
        rw [hentries]
        exact .none (hneeded rfl)
    | some raw =>
        cases mode with
        | postMeta =>
            rw [literalEntries, bind_eq_ok] at h
            obtain ⟨value, hvalue, h⟩ := h
            rw [bind_eq_ok] at h
            obtain ⟨shaped, hshaped, h⟩ := h
            cases h
            obtain ⟨htakes, rfl⟩ := metaValue_eq_ok.1 hshaped
            exact .some (normalValue_eq_ok.1 hvalue) htakes
        | taxonomy =>
            rw [literalEntries, bind_eq_ok] at h
            obtain ⟨value, hvalue, h⟩ := h
            cases htakes : Mode.taxonomy.takes token value.size? with
            | false =>
                simp only [hempty, htakes] at h
                cases h
            | true =>
                simp only [hempty, htakes] at h
                cases h
                exact .some (normalValue_eq_ok.1 hvalue) htakes

theorem orRefused_bind {α β : Type} (x : Except Failure α) (f : α → Except Failure β) :
    orRefused (x >>= f) = orRefused x >>= fun a => orRefused (f a) := by
  cases x <;> rfl

namespace Builder

variable {b : Builder} {kind : Value} {terms : List Value} {negated : Bool} {d : Dict}

/-- The clause of a mode: operator, operands, the entries for the literal, and that for the
operator. -/
def clauseIn (b : Builder) (mode : Mode) (kind : Value) (terms : List Value) (negated : Bool) :
    Attempt Dict := do
  let token ← b.resolve mode.context kind negated
  let (name, literal) ← operands (fieldName? b mode.setting mode.entity) terms token.asksPresence
  let entries ← orRefused (literalEntries b.settings mode token literal)
  let operator ← b.operatorEntry mode.context mode.operatorKey token
  pure ((.text mode.fieldKey, name) :: (entries ++ operator))

theorem metaClause_eq :
    b.metaClause kind terms negated = b.clauseIn .postMeta kind terms negated := by
  rw [metaClause, clauseIn]
  refine bind_congr fun token => bind_congr fun (name, literal) => ?_
  cases literal with
  | none => rfl
  | some raw =>
      simp only [literalEntries, orRefused_bind, bind_assoc]
      rfl

theorem taxonomyClause_eq :
    b.taxonomyClause kind terms negated = b.clauseIn .taxonomy kind terms negated := by
  rw [taxonomyClause, clauseIn]
  refine bind_congr fun token => bind_congr fun (name, literal) => ?_
  cases literal with
  | none => rfl
  | some raw =>
      simp only [literalEntries, orRefused_bind, bind_assoc]
      refine bind_congr fun value => ?_
      split <;> rfl

theorem clauseIn_eq_ok {mode : Mode} :
    b.clauseIn mode kind terms negated = .ok d ↔ BuildsClause b mode kind terms negated d := by
  simp only [clauseIn, bind_eq_ok, Prod.exists]
  constructor
  · rintro ⟨token, htoken, name, literal, hoperands, entries, hentries, operator, hoperator, h⟩
    cases h
    obtain ⟨field, hfield, hterms, hneeded⟩ := (operands_eq_ok fun _ => rfl).1 hoperands
    have htakes := operandEntries_of_literalEntries.2 ⟨mapError_eq_ok.1 hentries, hneeded⟩
    exact .intro htoken hfield hterms htakes hoperator
  · rintro ⟨htoken, hfield, hterms, htakes, hoperator⟩
    obtain ⟨hentries, hneeded⟩ := operandEntries_of_literalEntries.1 htakes
    exact ⟨_, htoken, _, _, (operands_eq_ok fun _ => rfl).2 ⟨_, hfield, hterms, hneeded⟩, _,
      mapError_eq_ok.2 hentries, _, hoperator, rfl⟩

theorem metaClause_eq_ok :
    b.metaClause kind terms negated = .ok d ↔ BuildsClause b .postMeta kind terms negated d := by
  rw [metaClause_eq, clauseIn_eq_ok]

theorem taxonomyClause_eq_ok :
    b.taxonomyClause kind terms negated = .ok d ↔
      BuildsClause b .taxonomy kind terms negated d := by
  rw [taxonomyClause_eq, clauseIn_eq_ok]

end Builder

variable {b : Builder} {kind : Value} {terms : List Value} {negated : Bool} {d : Dict}

theorem leaf_standard (b : Builder) (mode : Mode) (x : Value) :
    b.leaf .standard mode x = b.clause mode.shape x := by
  cases mode <;> rfl

/-- What is no comparison is refused, and a comparison takes the steps of its mode. -/
theorem leaf_expr (b : Builder) (mode : Mode) (kind : Value) (terms : List Value)
    (negated : Bool) :
    b.leaf .standard mode (.expr kind terms negated) =
      if kind.isJunctionKind then b.refuse .notRelational (.expr kind terms negated)
      else b.within mode.shape.complaint (.expr kind terms negated)
        (b.clauseIn mode kind terms negated) := by
  rw [leaf_standard, Builder.clause.eq_def]
  cases mode with
  | postMeta => rw [← Builder.metaClause_eq]; rfl
  | taxonomy => rw [← Builder.taxonomyClause_eq]; rfl

/-- A comparison makes a clause by the steps of its mode. -/
theorem leaf_eq_ok {mode : Mode} :
    b.leaf .standard mode (.expr kind terms negated) = .ok d ↔
      kind.isJunctionKind = false ∧ BuildsClause b mode kind terms negated d := by
  rw [leaf_expr]
  cases kind.isJunctionKind with
  | true => simp [Builder.refuse, Builder.refuseWith_ne_ok]
  | false => simp [Builder.within_eq_ok, Builder.clauseIn_eq_ok]

/-! ## Blocks -/

/-- A group makes a block of what its terms make. -/
theorem relation_expr (b : Builder) (leaf : Value → Attempt Dict) (kind : Value)
    (terms : List Value) (negated : Bool) :
    b.relation leaf (.expr kind terms negated) =
      b.within .relation (.expr kind terms negated)
        (b.resolve .relation kind negated >>= fun token =>
          (b.relationTerms leaf terms).map (Builder.block token)) := by
  rw [Builder.relation.eq_def]
  simp only []
  cases b.resolve .relation kind negated <;> rfl

/-- What a term of a group makes: a block if it is a group itself, and whatever the leaf makes of a
comparison. -/
def Builder.part (b : Builder) (leaf : Value → Attempt Dict) : Value → Attempt Dict
  | .expr kind terms negated =>
    if kind.isJunctionKind then b.relation leaf (.expr kind terms negated)
    else leaf (.expr kind terms negated)
  | x => b.refuse .relationTerm x

theorem relationTerms_cons (b : Builder) (leaf : Value → Attempt Dict) (term : Value)
    (rest : List Value) :
    b.relationTerms leaf (term :: rest) =
      b.part leaf term >>= fun part =>
        b.relationTerms leaf rest >>= fun parts => pure (part :: parts) := by
  rw [Builder.relationTerms.eq_def, Builder.part.eq_def]
  cases term with
  | expr kind terms negated =>
      simp only []
      split <;> rfl
  | _ => rfl

theorem relation_expr_eq_ok {leaf : Value → Attempt Dict} :
    b.relation leaf (.expr kind terms negated) = .ok d ↔
      ∃ token parts, b.resolve .relation kind negated = .ok token ∧
        b.relationTerms leaf terms = .ok parts ∧ Builder.block token parts = d := by
  simp only [relation_expr, Builder.within_eq_ok, bind_eq_ok, map_eq_ok, exists_and_left]

theorem relationTerms_expr_eq_ok {leaf : Value → Attempt Dict} {rest : List Value}
    {parts : List Dict} :
    b.relationTerms leaf (.expr kind terms negated :: rest) = .ok parts ↔
      ∃ part parts',
        (if kind.isJunctionKind then b.relation leaf (.expr kind terms negated)
          else leaf (.expr kind terms negated)) = .ok part ∧
        b.relationTerms leaf rest = .ok parts' ∧ part :: parts' = parts := by
  simp only [relationTerms_cons, Builder.part, bind_eq_ok, pure, Except.pure, Except.ok.injEq,
    exists_and_left]

/-- A term among those of a group and its part of the block: what is known of groups, or what the
leaf makes. -/
inductive IsPartOf (known : Value → Dict → Prop) (leaf : Value → Attempt Dict) :
    Value → Dict → Prop
  | group {kind : Value} {terms : List Value} {negated : Bool} {part : Dict}
      (hkind : kind.isJunctionKind = true) (hpart : known (.expr kind terms negated) part) :
      IsPartOf known leaf (.expr kind terms negated) part
  | comparison {kind : Value} {terms : List Value} {negated : Bool} {part : Dict}
      (hkind : kind.isJunctionKind = false) (hpart : leaf (.expr kind terms negated) = .ok part) :
      IsPartOf known leaf (.expr kind terms negated) part

variable {leaf : Value → Attempt Dict}

theorem part_eq_ok {x : Value} :
    b.part leaf x = .ok d ↔ IsPartOf (fun x d => b.relation leaf x = .ok d) leaf x d := by
  cases x with
  | expr kind terms negated =>
      rw [Builder.part]
      constructor
      · intro h
        cases hkind : kind.isJunctionKind with
        | true =>
            rw [hkind, if_pos rfl] at h
            exact .group hkind h
        | false =>
            rw [hkind, if_neg Bool.false_ne_true] at h
            exact .comparison hkind h
      · intro h
        cases h with
        | group hkind hpart => rwa [hkind, if_pos rfl]
        | comparison hkind hpart => rwa [hkind, if_neg Bool.false_ne_true]
  | _ =>
      constructor
      · intro h
        exact absurd h Builder.refuseWith_ne_ok
      · intro h
        cases h

/-- The parts of a block are what its terms make, one by one. -/
theorem relationTerms_eq_ok {parts : List Dict} :
    b.relationTerms leaf terms = .ok parts ↔
      List.Forall₂ (IsPartOf (fun x d => b.relation leaf x = .ok d) leaf) terms parts := by
  induction terms generalizing parts with
  | nil =>
      rw [Builder.relationTerms, List.forall₂_nil_left_iff, Except.ok.injEq]
      exact eq_comm
  | cons term rest ih =>
      rw [List.forall₂_cons_left_iff, relationTerms_cons]
      simp only [bind_eq_ok, part_eq_ok, ih]
      constructor
      · rintro ⟨part, hpart, parts', hrest, h⟩
        cases h
        exact ⟨part, parts', hpart, hrest, rfl⟩
      · rintro ⟨part, parts', hpart, hrest, rfl⟩
        exact ⟨part, hpart, parts', hrest, rfl⟩

/-! What holds of a block if it holds of the blocks among its parts holds of every block. -/

section

variable (known : Value → Dict → Prop)

mutual

theorem relation_induction
    (group : ∀ kind terms negated token parts, b.resolve .relation kind negated = .ok token →
      List.Forall₂ (IsPartOf known leaf) terms parts →
        known (.expr kind terms negated) (Builder.block token parts))
    (x : Value) (d : Dict) (h : b.relation leaf x = .ok d) : known x d := by
  cases x with
  | expr kind terms negated =>
      obtain ⟨token, parts, hresolve, hparts, rfl⟩ := relation_expr_eq_ok.1 h
      have hknown := parts_induction group terms parts (relationTerms_eq_ok.1 hparts)
      exact group _ _ _ _ _ hresolve hknown
  | _ =>
      rw [Builder.relation.eq_def] at h
      exact absurd h Builder.refuseWith_ne_ok

theorem parts_induction
    (group : ∀ kind terms negated token parts, b.resolve .relation kind negated = .ok token →
      List.Forall₂ (IsPartOf known leaf) terms parts →
        known (.expr kind terms negated) (Builder.block token parts))
    (terms : List Value) (parts : List Dict)
    (h : List.Forall₂ (IsPartOf (fun x d => b.relation leaf x = .ok d) leaf) terms parts) :
    List.Forall₂ (IsPartOf known leaf) terms parts := by
  match terms, parts, h with
  | [], _, .nil => exact .nil
  | term :: rest, part :: parts, .cons hterm hrest =>
      refine .cons ?_ (parts_induction group rest parts hrest)
      cases hterm with
      | group hkind hpart => exact .group hkind (relation_induction group _ part hpart)
      | comparison hkind hpart => exact .comparison hkind hpart

end

end

end PostQuery
