import PostQuery.Proofs.Relation.Built
import PostQuery.Proofs.Value.Normal

/-!
# The form of a block

Whoever reads a block goes by its keys, so this file says what they are, and in which order, without
a word about how the block was made. A block has its relation first and a part for each term of its
group, numbered from zero. A clause has its field first and its operator last; between the two
stands the value with what says how to read it, a cast type or the field that terms are looked up
by, and of these there are both or none.

How large a value may be depends on the operator, and so does whether there has to be one. Both are
asked of the value as it stands in the block.
-/

namespace PostQuery

/-! ## What is demanded of a clause

The keys in their order, with or without those of a value, and with or without that of an operator;
what can stand under the key that says how to read the value; and which values fit the operator. -/

def Value.CastType.texts : List String :=
  ["BINARY", "NUMERIC", "DECIMAL", "DATETIME", "DATE", "TIME", "CHAR"]

theorem Value.CastType.text_mem_texts (t : CastType) : t.text ∈ texts := by
  cases t <;> decide

namespace Mode

def operandKeys : Mode → List String
  | .postMeta => ["value", "type"]
  | .taxonomy => ["field", "terms"]

def clauseKeys (mode : Mode) (hasOperand hasOperator : Bool) : List String :=
  mode.fieldKey ::
    ((if hasOperand then mode.operandKeys else []) ++
      if hasOperator then [mode.operatorKey] else [])

def readerKey : Mode → String
  | .postMeta => "type"
  | .taxonomy => "field"

def readers : Mode → List String
  | .postMeta => Value.CastType.texts
  | .taxonomy => Settings.termFields

/-- The operator goes without saying. -/
def omits (mode : Mode) (s : Settings) (token : Token) : Bool :=
  token.text == mode.assumed && !s.spellsDefaults

/-- A value of a clause is of the kind and the size that the operator takes. -/
def fits : Mode → Token → Value → Bool
  | .postMeta, token, v =>
    if token.takesList then v.isStoredList
    else if token.takesRange then v.isStoredList && v.size? == some 2
    else v.isStored || token.asksPresence && v.isStoredList
  | .taxonomy, token, v => v.isStoredList && (token.asksPresence || v.size? != some 0)

end Mode

/-- The dictionary has the form of a clause with the operator. -/
structure IsFormed (s : Settings) (mode : Mode) (token : Token) (d : Dict) : Prop where
  keys : d.map Prod.fst = (mode.clauseKeys (d.get? (.text mode.operandKey)).isSome
    (d.get? (.text mode.operatorKey)).isSome).map Value.text
  operand : match d.get? (.text mode.operandKey) with
    | some v => mode.fits token v = true
    | none => token.asksPresence = true
  reader : ∀ v, d.get? (.text mode.readerKey) = some v → ∃ name ∈ mode.readers, v = .text name
  operator : d.get? (.text mode.operatorKey)
    = if mode.omits s token then none else some (.text token.text)

mutual

/-- The dictionary has the form of a block for the group. -/
inductive IsBlock (s : Settings) (mode : Mode) : Value → Dict → Prop
  | group {kind : Value} {terms : List Value} {j : Junction} {parts : List Dict} {d : Dict}
      (hkind : kind.junction? = some j)
      (keys : d.map Prod.fst = .text "relation" :: (List.range terms.length).map fun i => .int i)
      (values : d.map Prod.snd = .text j.name :: parts.map .dict)
      (hparts : List.Forall₂ (IsPart s mode) terms parts) :
      IsBlock s mode (.expr kind terms false) d

/-- The dictionary has the form of a part for the term: of a block for a group, and of a clause for
a comparison. -/
inductive IsPart (s : Settings) (mode : Mode) : Value → Dict → Prop
  | group {kind : Value} {terms : List Value} {negated : Bool} {d : Dict}
      (hkind : kind.isJunctionKind = true) (h : IsBlock s mode (.expr kind terms negated) d) :
      IsPart s mode (.expr kind terms negated) d
  | comparison {kind : Value} {terms : List Value} {negated : Bool} {token : Token} {d : Dict}
      (hkind : kind.isJunctionKind = false) (htoken : mode.token? kind negated = some token)
      (h : IsFormed s mode token d) : IsPart s mode (.expr kind terms negated) d

end

/-! ## Values -/

theorem Value.length_asList (v : Value) : v.asList.length = v.size?.getD 1 := by
  rw [asList, size?]
  cases v.sequence? <;> rfl

theorem Value.isStoredList_asList {v w : Value} (h : v.normal = .ok w) :
    (Value.list w.asList).isStoredList = true := by
  obtain ⟨_, ws, -, rfl, -, hstored⟩ | ⟨-, hstored⟩ := normal_cases h
  · exact hstored
  · rw [asList, sequence?_of_isStored hstored]
    simpa [isStoredList] using hstored

/-- What a post meta operator takes fits it, once it is made a list where a list is wanted. -/
theorem fits_postMeta_of_takes {token : Token} {raw value : Value}
    (hnormal : raw.normal = .ok value) (htakes : Mode.postMeta.takes token value.size? = true) :
    Mode.postMeta.fits token (if token.takesList then .list value.asList else value) = true := by
  rw [Mode.takes, Token.takesSize] at htakes
  rw [Mode.fits]
  cases hlists : token.takesList with
  | true => simpa using Value.isStoredList_asList hnormal
  | false =>
      simp only [hlists, Bool.false_eq_true, if_false] at htakes ⊢
      obtain ⟨_, ws, -, rfl, -, hstored⟩ | ⟨-, hstored⟩ := Value.normal_cases hnormal
      · cases hrange : token.takesRange with
        | true => simpa [hrange, hstored] using htakes
        | false =>
            have asks : token.asksPresence = true := by
              simpa [hrange, Value.size?, Value.sequence?] using htakes
            simp [asks, hstored]
      · have hsize : value.size? = none := by
          rw [Value.size?, Value.sequence?_of_isStored hstored, Option.map_none]
        cases hrange : token.takesRange with
        | true => simp [hrange, hsize] at htakes
        | false => simp [hstored]

theorem fits_taxonomy_of_takes {token : Token} {raw value : Value}
    (hnormal : raw.normal = .ok value) (htakes : Mode.taxonomy.takes token value.size? = true) :
    Mode.taxonomy.fits token (.list value.asList) = true := by
  have hsize : (Value.list value.asList).size? = some (value.size?.getD 1) := by
    rw [← Value.length_asList]
    rfl
  rw [Mode.takes] at htakes
  rw [Mode.fits, Value.isStoredList_asList hnormal, hsize, Bool.true_and]
  cases hvalue : value.size? with
  | none => simp
  | some n => simpa [hvalue] using htakes

/-! ## Clauses -/

/-- Terms are looked up by one of the fields that there are. -/
theorem termField_mem {s : Settings} (hchecked : s.checked = .ok s) (items : List Value) :
    ∃ name ∈ Settings.termFields, termField s items = .text name := by
  rw [termField]
  split
  · exact ⟨"term_id", by decide, rfl⟩
  · rw [Settings.checked] at hchecked
    split at hchecked
    · cases hchecked
    · next hany =>
        simp only [Bool.not_eq_true', Bool.not_eq_false, List.any_eq_true] at hany
        obtain ⟨name, hname, heqv⟩ := hany
        rw [Value.eqv_isText, Value.isText_iff] at heqv
        exact ⟨name, hname, heqv⟩

variable {b : Builder} {mode : Mode} {kind : Value} {terms : List Value} {negated : Bool}
  {d : Dict}

theorem written_eq (b : Builder) (mode : Mode) (token : Token) :
    b.written mode.context mode.operatorKey token
      = if mode.omits b.settings token then []
        else [(.text mode.operatorKey, .text token.text)] := by
  rw [Builder.written, Builder.writes, Mode.omits, Context.isDefault, mode.default_context]
  cases b.settings.spellsDefaults <;> cases token.text == mode.assumed <;> rfl

/-- The entries for a literal decide whether the clause around them has the form. -/
theorem isFormed_of_entries {token : Token} {name : Value} {entries : Dict}
    (hkeys : entries.map Prod.fst = (if (entries.get? (.text mode.operandKey)).isSome then
      mode.operandKeys else []).map Value.text)
    (hoperand : match entries.get? (.text mode.operandKey) with
      | some v => mode.fits token v = true
      | none => token.asksPresence = true)
    (hreader : ∀ v, entries.get? (.text mode.readerKey) = some v →
      ∃ name ∈ mode.readers, v = .text name)
    (hoperator : entries.get? (.text mode.operatorKey) = none) :
    IsFormed b.settings mode token ((.text mode.fieldKey, name) ::
      (entries ++ b.written mode.context mode.operatorKey token)) := by
  have hgetOperand : Dict.get? ((.text mode.fieldKey, name) ::
      (entries ++ b.written mode.context mode.operatorKey token)) (.text mode.operandKey)
        = entries.get? (.text mode.operandKey) :=
    get?_clause_of_ne b (by cases mode <;> decide) (by cases mode <;> decide) name entries token
  have hgetOperator : Dict.get? ((.text mode.fieldKey, name) ::
      (entries ++ b.written mode.context mode.operatorKey token)) (.text mode.operatorKey)
        = if mode.omits b.settings token then none else some (.text token.text) := by
    rw [get?_clause (by cases mode <;> decide), hoperator, Option.none_or, written_eq]
    split
    · rfl
    · rw [Dict.get?_cons_text, BEq.rfl, if_pos rfl]
  constructor
  case keys =>
    rw [hgetOperand, hgetOperator, List.map_cons, List.map_append, hkeys, written_eq,
      Mode.clauseKeys, List.map_cons, List.map_append]
    congr 2
    split <;> rfl
  case operand => rwa [hgetOperand]
  case reader =>
    rwa [get?_clause_of_ne b (by cases mode <;> decide) (by cases mode <;> decide)]
  case operator => exact hgetOperator

theorem isFormed_of_builds (hchecked : b.settings.checked = .ok b.settings)
    (h : BuildsClause b mode kind terms negated d) :
    ∃ token, mode.token? kind negated = some token ∧ IsFormed b.settings mode token d := by
  obtain @⟨token, _, _, _, _, _, htoken, -, -, htakes, hoperator⟩ := h
  refine ⟨token, Mode.resolve_context_eq_ok.1 (Builder.context_resolve_of_resolve htoken), ?_⟩
  rw [Builder.operatorEntry_eq_ok hoperator]
  cases htakes with
  | none asks =>
      refine isFormed_of_entries rfl asks (fun v h => ?_) rfl
      cases h
  | @some raw value hnormal htakes =>
      cases mode with
      | postMeta =>
          have hfits := fits_postMeta_of_takes hnormal htakes
          have hcast := raw.castType.text_mem_texts
          apply isFormed_of_entries
          · simp [Mode.operandEntries, Mode.operandKey, Mode.operandKeys]
          · simpa [Mode.operandEntries, Mode.operandKey] using hfits
          · simpa [Mode.operandEntries, Mode.readerKey, Mode.readers] using hcast
          · simp [Mode.operandEntries, Mode.operatorKey]
      | taxonomy =>
          have hfits := fits_taxonomy_of_takes hnormal htakes
          have hfield := termField_mem hchecked value.asList
          apply isFormed_of_entries
          · simp [Mode.operandEntries, Mode.operandKey, Mode.operandKeys]
          · simpa [Mode.operandEntries, Mode.operandKey] using hfits
          · simpa [Mode.operandEntries, Mode.readerKey, Mode.readers] using hfield
          · simp [Mode.operandEntries, Mode.operatorKey]

/-! ## Blocks -/

theorem block_keys (token : Token) (parts : List Dict) :
    (Builder.block token parts).map Prod.fst
      = .text "relation" :: (List.range parts.length).map fun i => .int i := by
  rw [Builder.block, List.map_cons, List.map_map, List.range_eq_range', ← List.zipIdx_map_snd,
    List.map_map]
  rfl

theorem block_values (token : Token) (parts : List Dict) :
    (Builder.block token parts).map Prod.snd = .text token.text :: parts.map .dict := by
  rw [Builder.block, List.map_cons, List.map_map]
  conv_rhs => rw [← List.zipIdx_map_fst 0 parts, List.map_map]
  rfl

/-- With settings that pass their checks, what a builder makes of a group is a block, in either mode
and whatever the terms are. -/
theorem standardRelation_isBlock (b : Builder) (mode : Mode) (x : Value) (d : Dict)
    (hchecked : b.settings.checked = .ok b.settings) (h : b.standardRelation mode x = .ok d) :
    IsBlock b.settings mode x d := by
  refine relation_induction (IsBlock b.settings mode)
    (fun kind terms negated token parts hresolve hparts => ?_) x d h
  obtain ⟨rfl, j, hj, rfl⟩ :=
    Context.resolve_relation_eq_ok.1 (Builder.context_resolve_of_resolve hresolve)
  have hname : (Context.relationPair j).plain.text = j.name := by
    cases j <;> rfl
  refine .group hj ?_ ?_ (hparts.imp fun term part hpart => ?_)
  · rw [block_keys, hparts.length_eq]
  · rw [block_values, hname]
  · cases hpart with
    | group hkind hblock => exact .group hkind hblock
    | comparison hkind hleaf =>
        obtain ⟨token, htoken, hformed⟩ := isFormed_of_builds hchecked (leaf_eq_ok.1 hleaf).2
        exact .comparison hkind htoken hformed

/-- A term that is not five, and a group of one tag that has to be there: the tag needs neither a
field nor terms. -/
theorem standardRelation_isBlock_of_nested :
    let genre := Value.expr (.comparison .equal)
      [.field (.text "tax") (.text "genre"), .literal (.int 5)] true
    let tag := Value.expr (.comparison .present) [.field (.text "tax") (.text "tag")] false
    let x := Value.expr (.junction .and) [genre, .expr (.junction .or) [tag] false] false
    let notFive : Dict := [(.text "taxonomy", .text "genre"), (.text "field", .text "term_id"),
      (.text "terms", .list [.int 5]), (.text "operator", .text "NOT IN")]
    let there : Dict := [(.text "taxonomy", .text "tag"), (.text "operator", .text "EXISTS")]
    let d : Dict := [(.text "relation", .text "AND"), (.int 0, .dict notFive),
      (.int 1, .dict [(.text "relation", .text "OR"), (.int 0, .dict there)])]
    let b : Builder := {}
    b.standardRelation .taxonomy x = .ok d ∧ IsBlock b.settings .taxonomy x d := by
  intro genre tag x notFive there d b
  have hgenre : b.leaf .standard .taxonomy genre = .ok notFive := by
    refine leaf_eq_ok.2 ⟨Value.isJunctionKind_comparison _, Builder.taxonomyClause_eq_ok.1 ?_⟩
    cbv
  have htag : b.leaf .standard .taxonomy tag = .ok there := by
    refine leaf_eq_ok.2 ⟨Value.isJunctionKind_comparison _, Builder.taxonomyClause_eq_ok.1 ?_⟩
    cbv
  have hinner : b.relation (b.leaf .standard .taxonomy) (.expr (.junction .or) [tag] false)
      = .ok (Builder.block .or [there]) :=
    relation_expr_eq_ok.2 ⟨_, _, rfl, relationTerms_eq_ok.2
      (.cons (.comparison (Value.isJunctionKind_comparison _) htag) .nil), rfl⟩
  have hbuilt : b.standardRelation .taxonomy x = .ok d :=
    relation_expr_eq_ok.2 ⟨_, _, rfl, relationTerms_eq_ok.2
      (.cons (.comparison (Value.isJunctionKind_comparison _) hgenre)
        (.cons (.group (Value.isJunctionKind_junction _) hinner) .nil)), rfl⟩
  have hchecked : b.settings.checked = .ok b.settings := by
    cbv
  exact ⟨hbuilt, standardRelation_isBlock b .taxonomy x d hchecked hbuilt⟩

end PostQuery
