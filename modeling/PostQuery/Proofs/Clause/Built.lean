import Mathlib
import PostQuery.Relation

/-!
# What a built clause is made of

An attempt that succeeds has gone through all its steps, and none of the ways in which it can be
refused was taken. The first half of this file reads the steps back from the success, one lemma for
each way of putting them together. The second half does so for whole clauses: a built clause has the
name of the first field among the terms and the value of the first literal, whatever their order,
and its operator is either written out or the one that its context assumes.
-/

namespace PostQuery

/-! ## Steps of an attempt -/

theorem bind_eq_ok {ε α β : Type} {x : Except ε α} {f : α → Except ε β} {b : β} :
    (x >>= f) = .ok b ↔ ∃ a, x = .ok a ∧ f a = .ok b := by
  cases x with
  | error e =>
      constructor
      · intro h
        cases h
      · rintro ⟨_, h, -⟩
        cases h
  | ok a =>
      constructor
      · intro h
        exact ⟨a, rfl, h⟩
      · rintro ⟨_, h, hf⟩
        cases h
        exact hf

theorem map_eq_ok {ε α β : Type} {x : Except ε α} {f : α → β} {b : β} :
    x.map f = .ok b ↔ ∃ a, x = .ok a ∧ f a = b := by
  cases x with
  | error e =>
      constructor
      · intro h
        cases h
      · rintro ⟨_, h, -⟩
        cases h
  | ok a =>
      constructor
      · intro h
        cases h
        exact ⟨a, rfl, rfl⟩
      · rintro ⟨_, h, rfl⟩
        cases h
        rfl

theorem map_eq_error {ε α β : Type} {x : Except ε α} {f : α → β} {e : ε} :
    x.map f = .error e ↔ x = .error e := by
  cases x with
  | error e' =>
      constructor
      · intro h
        cases h
        rfl
      · intro h
        cases h
        rfl
  | ok a => constructor <;> intro h <;> cases h

/-- Reporting a fault in another way makes no success of it. -/
theorem mapError_eq_ok {ε ε' α : Type} {x : Except ε α} {f : ε → ε'} {a : α} :
    x.mapError f = .ok a ↔ x = .ok a := by
  cases x with
  | error e =>
      constructor
      · intro h
        cases h
      · intro h
        cases h
  | ok a' =>
      constructor
      · intro h
        cases h
        rfl
      · intro h
        cases h
        rfl

namespace Builder

variable {b : Builder}

theorem refuseWith_ne_ok {α : Type} {c : Complaint} {x : Value} {cause : Option Failure}
    {causes : List Failure} {a : α} : b.refuseWith c x cause causes ≠ .ok a := by
  intro h
  rw [refuseWith] at h
  split at h <;> cases h

theorem within_eq_ok {α : Type} {c : Complaint} {x : Value} {attempt : Attempt α} {a : α} :
    b.within c x attempt = .ok a ↔ attempt = .ok a := by
  match attempt with
  | .ok a' => exact Iff.rfl
  | .error (.refused f) =>
      constructor
      · intro h
        exact absurd h refuseWith_ne_ok
      · intro h
        cases h
  | .error (.broken m) =>
      constructor
      · intro h
        cases h
      · intro h
        cases h

theorem context_resolve_of_resolve {ctx : Context} {kind : Value} {negated : Bool} {token : Token}
    (h : b.resolve ctx kind negated = .ok token) : ctx.resolve kind negated = .ok token := by
  rw [resolve] at h
  split at h
  · cases h
  · cases h
  · exact mapError_eq_ok.1 h

/-- A builder with parts of its own looks operators up in the tables. -/
theorem resolve_eq (hparts : b.standIns = {}) (ctx : Context) (kind : Value) (negated : Bool) :
    b.resolve ctx kind negated = (ctx.resolve kind negated).mapError .refused := by
  rw [resolve, hparts]

theorem resolve_eq_ok (hparts : b.standIns = {}) {ctx : Context} {kind : Value} {negated : Bool}
    {token : Token} :
    b.resolve ctx kind negated = .ok token ↔ ctx.resolve kind negated = .ok token := by
  rw [resolve_eq hparts, mapError_eq_ok]

/-- The operator is not left out: it is not assumed, or the settings ask for it. -/
def writes (b : Builder) (ctx : Context) (token : Token) : Bool :=
  b.settings.spellsDefaults || !ctx.isDefault token.text

/-- The entry for an operator, if there is one. -/
def written (b : Builder) (ctx : Context) (name : String) (token : Token) : Dict :=
  if b.writes ctx token then [(.text name, .text token.text)] else []

theorem operatorEntry_eq (hsettings : b.standIns.settings = none) (ctx : Context) (name : String)
    (token : Token) : b.operatorEntry ctx name token = .ok (b.written ctx name token) := by
  rw [operatorEntry, bind_eq_ok]
  refine ⟨b.writes ctx token, ?_, ?_⟩
  · rw [spells, settingsFor, hsettings]
    rfl
  · rw [written]
    split <;> rfl

theorem operatorEntry_eq_ok {ctx : Context} {name : String} {token : Token} {d : Dict}
    (h : b.operatorEntry ctx name token = .ok d) : d = b.written ctx name token := by
  rw [operatorEntry, bind_eq_ok] at h
  obtain ⟨spelled, hspells, h⟩ := h
  rw [spells] at hspells
  split at hspells
  · next s hs =>
      have hsettings : s = b.settings := by
        rw [settingsFor] at hs
        split at hs
        · cases hs
          rfl
        · cases hs
      injection hspells with hspells
      rw [written, writes, ← hsettings, hspells]
      cases spelled <;> cases h <;> rfl
  · cases hspells

/-- A missing operator is the one that its context assumes. -/
theorem written_cases (b : Builder) (ctx : Context) (name : String) (token : Token) :
    b.written ctx name token = [(.text name, .text token.text)] ∨
      b.written ctx name token = [] ∧ token.text = ctx.default.text := by
  rw [written]
  cases hwrites : b.writes ctx token with
  | true => exact .inl rfl
  | false =>
      rw [writes, Bool.or_eq_false_iff, Bool.not_eq_false'] at hwrites
      exact .inr ⟨rfl, eq_of_beq hwrites.2⟩

end Builder

/-- What a context has for a condition, negated or not. -/
def TokenPair.token? (pair : TokenPair) (negated : Bool) : Option Token :=
  if negated then pair.negated else some pair.plain

/-- The operator of a kind is that of the comparison or junction that its key spells. -/
theorem Context.resolve_eq_ok {ctx : Context} {kind : Value} {negated : Bool} {token : Token} :
    ctx.resolve kind negated = .ok token ↔
      ∃ k pair, key kind = .ok k ∧ ctx.pair? k = some pair ∧ pair.token? negated = some token := by
  rw [resolve]
  cases key kind with
  | error v => simp
  | ok k =>
      cases hpair : ctx.pair? k with
      | none => simp [hpair]
      | some pair =>
          cases negated with
          | false => simp [hpair, TokenPair.token?]
          | true => cases hnegated : pair.negated <;> simp [hpair, TokenPair.token?, hnegated]

/-! ## Operands -/

namespace Value

/-- The value of a literal term. -/
def literal? : Value → Option Value
  | .literal v => some v
  | _ => none

@[simp] theorem literal?_literal (v : Value) : (Value.literal v).literal? = some v := rfl

/-- The key of a variable term. -/
def variableName? : Value → Option Value
  | .variable key => some key
  | _ => none

/-- The name of a field term. -/
def fieldName? : Value → Option Value
  | .field _ name => some name
  | _ => none

end Value

theorem scanOperands_cons (field? : Value → Attempt (Option Value)) (term : Value)
    (rest : List Value) (field literal : Option Value) :
    scanOperands field? (term :: rest) field literal
      = (if field.isSome then pure none else field? term) >>= fun taken =>
          match taken with
          | some name => scanOperands field? rest (some name) literal
          | none =>
            match literal, term with
            | none, .literal v => scanOperands field? rest field (some v)
            | _, _ => .error (.refused (.operands (.unexpected term))) := by
  rw [scanOperands.eq_def]
  cases field <;> rfl

/-- A term that is gone past was taken for the field or for the literal. -/
theorem scanOperands_cons_eq_ok {field? : Value → Attempt (Option Value)}
    (hliteral : ∀ v, field? (.literal v) = .ok none) {term : Value} {rest : List Value}
    {field literal : Option Value} {found : Option Value × Option Value} :
    scanOperands field? (term :: rest) field literal = .ok found ↔
      (∃ name, field = none ∧ field? term = .ok (some name) ∧
        scanOperands field? rest (some name) literal = .ok found) ∨
      ∃ v, literal = none ∧ term = .literal v ∧
        scanOperands field? rest field (some v) = .ok found := by
  rw [scanOperands_cons, bind_eq_ok]
  constructor
  · rintro ⟨taken, htaken, h⟩
    cases taken with
    | some name =>
        cases field with
        | some f => cases htaken
        | none => exact .inl ⟨name, rfl, htaken, h⟩
    | none =>
        cases literal with
        | some l => cases h
        | none =>
            cases term with
            | literal v => exact .inr ⟨v, rfl, rfl, h⟩
            | _ => cases h
  · rintro (⟨name, rfl, hterm, h⟩ | ⟨v, rfl, rfl, h⟩)
    · exact ⟨some name, hterm, h⟩
    · refine ⟨none, ?_, h⟩
      cases field with
      | some f => rfl
      | none => exact hliteral v

/-- The terms are a field and at most one literal, whichever comes first. -/
inductive AreOperands (field : Value) : List Value → Option Value → Prop
  | alone : AreOperands field [field] none
  | before (v : Value) : AreOperands field [field, .literal v] (some v)
  | after (v : Value) : AreOperands field [.literal v, field] (some v)

theorem AreOperands.field_mem {field : Value} {terms : List Value} {literal : Option Value}
    (h : AreOperands field terms literal) : field ∈ terms := by
  cases h <;> simp

theorem AreOperands.findSome?_name {field name : Value} {terms : List Value}
    {literal : Option Value} {name? : Value → Option Value} (h : AreOperands field terms literal)
    (hname : name? field = some name) (hliteral : ∀ v, name? (.literal v) = none) :
    terms.findSome? name? = some name := by
  cases h <;> simp [hname, hliteral]

theorem AreOperands.findSome?_literal {field : Value} {terms : List Value}
    {literal : Option Value} (h : AreOperands field terms literal)
    (hfield : field.literal? = none) : terms.findSome? Value.literal? = literal := by
  cases h with
  | alone => simp [hfield]
  | before v => simp [hfield]
  | after v => rfl

/-- The scan finds a field and a literal where the terms are just these, or the field alone. -/
theorem scanOperands_eq_ok {field? : Value → Attempt (Option Value)}
    (hliteral : ∀ v, field? (.literal v) = .ok none) {terms : List Value} {name : Value}
    {literal : Option Value} :
    scanOperands field? terms none none = .ok (some name, literal) ↔
      ∃ field, field? field = .ok (some name) ∧ AreOperands field terms literal := by
  -- With nothing left to find, there is no term that could be gone past.
  have hboth : ∀ rest n v, scanOperands field? rest (some n) (some v) = .ok (some name, literal) ↔
      rest = [] ∧ n = name ∧ some v = literal := by
    intro rest n v
    cases rest with
    | nil => simp [scanOperands]
    | cons term rest => simp [scanOperands_cons_eq_ok hliteral]
  have hnamed : ∀ rest n, scanOperands field? rest (some n) none = .ok (some name, literal) ↔
      n = name ∧ (rest = [] ∧ literal = none ∨ ∃ v, rest = [.literal v] ∧ literal = some v) := by
    intro rest n
    cases rest with
    | nil => simp [scanOperands, eq_comm]
    | cons term rest =>
        simp only [scanOperands_cons_eq_ok hliteral, hboth]
        grind
  constructor
  · intro h
    cases terms with
    | nil => cases h
    | cons term rest =>
        obtain ⟨n, -, hterm, hrest⟩ | ⟨v, -, rfl, hrest⟩ := (scanOperands_cons_eq_ok hliteral).1 h
        · obtain ⟨rfl, ⟨rfl, rfl⟩ | ⟨v, rfl, rfl⟩⟩ := (hnamed rest n).1 hrest
          · exact ⟨term, hterm, .alone⟩
          · exact ⟨term, hterm, .before v⟩
        · cases rest with
          | nil => cases hrest
          | cons term rest =>
              obtain ⟨n, -, hterm, hrest⟩ | ⟨_, hnone, -⟩ :=
                (scanOperands_cons_eq_ok hliteral).1 hrest
              · obtain ⟨rfl, rfl, rfl⟩ := (hboth rest n v).1 hrest
                exact ⟨term, hterm, .after v⟩
              · cases hnone
  · rintro ⟨field, hfield, hterms⟩
    cases hterms with
    | alone =>
        exact (scanOperands_cons_eq_ok hliteral).2
          (.inl ⟨name, rfl, hfield, (hnamed _ _).2 ⟨rfl, .inl ⟨rfl, rfl⟩⟩⟩)
    | before v =>
        exact (scanOperands_cons_eq_ok hliteral).2
          (.inl ⟨name, rfl, hfield, (hnamed _ _).2 ⟨rfl, .inr ⟨v, rfl, rfl⟩⟩⟩)
    | after v =>
        refine (scanOperands_cons_eq_ok hliteral).2 (.inr ⟨v, rfl, rfl, ?_⟩)
        exact (scanOperands_cons_eq_ok hliteral).2
          (.inl ⟨name, rfl, hfield, (hboth _ _ _).2 ⟨rfl, rfl, rfl⟩⟩)

theorem operands_eq_ok {field? : Value → Attempt (Option Value)}
    (hliteral : ∀ v, field? (.literal v) = .ok none) {terms : List Value} {literalOptional : Bool}
    {name : Value} {literal : Option Value} :
    operands field? terms literalOptional = .ok (name, literal) ↔
      ∃ field, field? field = .ok (some name) ∧ AreOperands field terms literal ∧
        (literal = none → literalOptional = true) := by
  rw [operands, bind_eq_ok]
  constructor
  · rintro ⟨⟨found, literal'⟩, hscan, h⟩
    cases found with
    | none => cases h
    | some name' =>
        cases hmissing : literal'.isNone && !literalOptional with
        | true =>
            simp only [hmissing] at h
            cases h
        | false =>
            simp only [hmissing] at h
            cases h
            obtain ⟨field, hfield, hterms⟩ := (scanOperands_eq_ok hliteral).1 hscan
            refine ⟨field, hfield, hterms, fun hnone => ?_⟩
            rw [hnone] at hmissing
            simpa using hmissing
  · rintro ⟨field, hfield, hterms, hneeded⟩
    refine ⟨(some name, literal), (scanOperands_eq_ok hliteral).2 ⟨field, hfield, hterms⟩, ?_⟩
    have hmissing : (literal.isNone && !literalOptional) = false := by
      cases literal with
      | none => simp [hneeded rfl]
      | some v => rfl
    simp only [hmissing]
    rfl

theorem fieldName?_field_eq_ok {b : Builder} {setting : String} {entity : Settings → Value}
    {e n name : Value} (h : fieldName? b setting entity (.field e n) = .ok (some name)) :
    e.equal (entity b.settings) = .ok true ∧ n = name := by
  obtain ⟨s, hs, hname⟩ := bind_eq_ok.1 (mapError_eq_ok.1 h)
  obtain ⟨found, hfound, hname⟩ := bind_eq_ok.1 hname
  rw [Builder.settingsFor] at hs
  split at hs
  · cases hs
    cases found with
    | true =>
        cases hname
        exact ⟨hfound, rfl⟩
    | false => cases hname
  · cases hs

theorem fieldName?_eq_ok {b : Builder} {setting : String} {entity : Settings → Value}
    {term name : Value} (h : fieldName? b setting entity term = .ok (some name)) :
    ∃ e, term = .field e name := by
  cases term with
  | field e n =>
      obtain ⟨-, rfl⟩ := fieldName?_field_eq_ok h
      exact ⟨e, rfl⟩
  | _ => cases h

theorem variableKey?_eq_ok {term key : Value} :
    variableKey? term = .ok (some key) ↔ term = .variable key := by
  cases term <;> simp [variableKey?]

/-! ## Values -/

theorem normalValue_eq_ok {raw value : Value} :
    normalValue raw = .ok value ↔ raw.normal = .ok value := by
  rw [normalValue]
  cases raw.normal <;> simp

/-- How many items a sequence has. -/
def Value.size? (v : Value) : Option Nat := v.sequence?.map List.length

/-- The sizes of the values that the operator of a post meta clause takes: any where it makes a list
of them or asks for presence alone, two for a range, and otherwise none, which is a single value. -/
def Token.takesSize (token : Token) (size : Option Nat) : Bool :=
  if token.takesList then true
  else if token.takesRange then size == some 2
  else token.asksPresence || size.isNone

/-- A list is taken for what it is, whatever a value that is none is checked for. -/
theorem metaValue_eq_ok {token : Token} {value shaped : Value} :
    metaValue token value = .ok shaped ↔
      token.takesSize value.size? = true ∧
        (if token.takesList then .list value.asList else value) = shaped := by
  rw [metaValue, Token.takesSize, Value.size?, Value.isSequence]
  cases token.takesList with
  | true => simp
  | false =>
      cases token.takesRange with
      | true =>
          match value.sequence? with
          | none | some [] | some [_] | some [_, _] | some (_ :: _ :: _ :: _) => simp
      | false => cases value.sequence? <;> cases token.asksPresence <;> simp

/-! ## Whole clauses -/

namespace Builder

variable {b : Builder} {kind : Value} {terms : List Value} {negated : Bool} {d : Dict}

theorem clause_postMeta_eq_ok (hkind : kind.isJunctionKind = false) :
    b.clause .postMeta (.expr kind terms negated) = .ok d
      ↔ b.metaClause kind terms negated = .ok d := by
  rw [clause.eq_def]
  simp only [hkind, Bool.false_eq_true, if_false]
  exact within_eq_ok

theorem compareParts_eq_ok {key value : Value} {token : Token} :
    b.compareParts kind terms negated = .ok (key, value, token) ↔
      ∃ raw normal, b.resolve .compare kind negated = .ok token ∧
        AreOperands (.variable key) terms (some raw) ∧ raw.normal = .ok normal ∧
        (if token.takesList then .list normal.asList else normal) = value := by
  simp only [compareParts, bind_eq_ok, Prod.exists]
  constructor
  · rintro ⟨token', htoken, key', literal, hoperands, normal, hnormal, h⟩
    cases h
    obtain ⟨field, hfield, hterms, hneeded⟩ := (operands_eq_ok fun _ => rfl).1 hoperands
    cases variableKey?_eq_ok.1 hfield
    cases literal with
    | none => cases hneeded rfl
    | some raw =>
        exact ⟨raw, normal, htoken, hterms, normalValue_eq_ok.1 (mapError_eq_ok.1 hnormal), rfl⟩
  · rintro ⟨raw, normal, htoken, hterms, hnormal, rfl⟩
    exact ⟨token, htoken, key, some raw,
      (operands_eq_ok fun _ => rfl).2 ⟨_, rfl, hterms, fun hnone => nomatch hnone⟩, normal,
      mapError_eq_ok.2 (normalValue_eq_ok.2 hnormal), rfl⟩

/-- A plain comparison that cannot be read is refused, and one that was read makes its entries. -/
theorem compare_expr (b : Builder) (kind : Value) (terms : List Value) (negated : Bool) :
    b.clause .compare (.expr kind terms negated) =
      if kind.isJunctionKind then b.refuse .notRelational (.expr kind terms negated)
      else b.within .compare (.expr kind terms negated) (b.compareParts kind terms negated) >>=
        fun parts => b.compareEntries parts.1 parts.2.1 parts.2.2 := by
  rw [clause.eq_def]

theorem compare_eq_ok :
    b.clause .compare (.expr kind terms negated) = .ok d ↔
      kind.isJunctionKind = false ∧ ∃ key value token,
        b.compareParts kind terms negated = .ok (key, value, token) ∧
        b.compareEntries key value token = .ok d := by
  rw [compare_expr]
  cases kind.isJunctionKind with
  | true => simp [refuse, refuseWith_ne_ok]
  | false => simp [bind_eq_ok, within_eq_ok]

/-- A plain comparison: the variable's key with the value in the shape that the operator takes, and
the operator under a key of its own unless that is assumed. -/
theorem compareClause_eq_ok (h : b.clause .compare (.expr kind terms negated) = .ok d) :
    ∃ token key raw value, b.resolve .compare kind negated = .ok token ∧
      terms.findSome? Value.variableName? = some key ∧
      terms.findSome? Value.literal? = some raw ∧ raw.normal = .ok value ∧
      d = Dict.update [(key, if token.takesList then .list value.asList else value)]
        (b.written .compare "compare" token) := by
  obtain ⟨-, key, shaped, token, hparts, h⟩ := compare_eq_ok.1 h
  obtain ⟨raw, value, htoken, hterms, hnormal, rfl⟩ := compareParts_eq_ok.1 hparts
  have hname : terms.findSome? Value.variableName? = some key :=
    hterms.findSome?_name rfl fun _ => rfl
  rw [compareEntries, bind_eq_ok] at h
  obtain ⟨key', hkey, h⟩ := h
  rw [bind_eq_ok] at h
  obtain ⟨operator, hoperator, h⟩ := h
  cases h
  have hsame : key' = key := by
    have hkey := mapError_eq_ok.1 hkey
    rw [Value.asKey] at hkey
    split at hkey
    · cases hkey
    · cases hkey
      rfl
  rw [operatorEntry_eq_ok hoperator, hsame]
  exact ⟨token, key, raw, value, htoken, hname, hterms.findSome?_literal rfl, hnormal, rfl⟩

end Builder

end PostQuery
