import PostQuery.Proofs.Relation.Built

/-!
# Operators that are spelled out

Whether an operator is written where it would be assumed is a setting, and the setting is asked at
one place only, when everything else about a clause is settled. So two builders that differ in
nothing else take every other step alike. They refuse the same trees, in the same words and for the
same causes, and where they build, the block of the one is that of the other without the operators
that go without saying.

`bare` takes these operators out of a finished block. It reads the block by its keys, as anyone
would who has only the block: what has a relation has its parts under numbers, and what has none is
a clause. The proof takes `bare` along the builder's own steps. Only in a clause does it do
something, and of the entries there only the last one is ever taken out.
-/

namespace PostQuery

/-- The builder with another value for the setting that spells operators out. -/
def Builder.spelling (b : Builder) (v : Value) : Builder :=
  { b with settings := { b.settings with explicitDefaults := v } }

/-! ## Blocks without the assumed operators -/

/-- The entry holds the operator that is assumed where there is none. -/
def Mode.isAssumed (mode : Mode) (e : Value × Value) : Bool :=
  e.1.isText mode.operatorKey && e.2.isText mode.assumed

/-- A clause without the assumed operator. -/
def Mode.bareClause (mode : Mode) (d : Dict) : Dict := d.filter fun e => !mode.isAssumed e

mutual

/-- A block or a clause without the assumed operators, at every depth. -/
def bareValue (mode : Mode) : Value → Value
  | .dict entries =>
    if (Dict.get? entries (.text "relation")).isSome then .dict (bareParts mode entries)
    else .dict (mode.bareClause entries)
  | v => v

/-- The entries of a block, the parts of which are under numbers. -/
def bareParts (mode : Mode) : List (Value × Value) → List (Value × Value)
  | [] => []
  | (key, value) :: rest =>
    (key, match key with
      | .int _ => bareValue mode value
      | _ => value) :: bareParts mode rest

end

/-- The block without the assumed operators. -/
def bare (mode : Mode) (d : Dict) : Dict :=
  if (d.get? (.text "relation")).isSome then bareParts mode d else mode.bareClause d

theorem bareValue_dict (mode : Mode) (d : Dict) :
    bareValue mode (.dict d) = .dict (bare mode d) := by
  rw [bareValue, bare]
  split <;> rfl

theorem bareParts_numbered (mode : Mode) (parts : List Dict) (n : Nat) :
    bareParts mode ((parts.zipIdx n).map fun p => (.int p.2, .dict p.1))
      = ((parts.map (bare mode)).zipIdx n).map fun p => (.int p.2, .dict p.1) := by
  induction parts generalizing n with
  | nil => rfl
  | cons d rest ih =>
      simp only [List.map_cons, List.zipIdx_cons, bareParts, bareValue_dict, ih]

theorem bare_block (mode : Mode) (token : Token) (parts : List Dict) :
    bare mode (Builder.block token parts) = Builder.block token (parts.map (bare mode)) := by
  have hrelation : ((Builder.block token parts).get? (.text "relation")).isSome = true := by
    rw [Builder.block, Dict.get?_cons_text]
    rfl
  rw [bare, if_pos hrelation, Builder.block, bareParts.eq_def]
  simp only [bareParts_numbered, Builder.block]

theorem bare_of_builds {b : Builder} {mode : Mode} {kind : Value} {terms : List Value}
    {negated : Bool} {d : Dict} (h : BuildsClause b mode kind terms negated d) :
    bare mode d = mode.bareClause d := by
  have hrelation : d.get? (.text "relation") = none := by
    obtain ⟨-, -, -, htakes, hoperator⟩ := h
    rw [Builder.operatorEntry_eq_ok hoperator,
      get?_clause_of_ne b (by cases mode <;> decide) (by cases mode <;> decide)]
    cases htakes with
    | none _ => rfl
    | some _ _ => cases mode <;> simp [Mode.operandEntries]
  rw [bare, hrelation]
  rfl

/-! ## Attempts that are changed afterwards -/

theorem map_bind {ε α β γ : Type} (x : Except ε α) (f : α → Except ε β) (g : β → γ) :
    (x >>= f).map g = x >>= fun a => (f a).map g := by
  cases x <;> rfl

theorem map_congr_ok {ε α β : Type} {x : Except ε α} {f g : α → β}
    (h : ∀ a, x = .ok a → f a = g a) : x.map f = x.map g := by
  cases x with
  | error e => rfl
  | ok a =>
      show Except.ok (f a) = Except.ok (g a)
      rw [h a rfl]

namespace Builder

variable {b : Builder}

theorem map_refuseWith {α β : Type} (f : α → β) (c : Complaint) (x : Value)
    (cause : Option Failure) (causes : List Failure) :
    (b.refuseWith c x cause causes).map f = b.refuseWith c x cause causes := by
  rw [refuseWith, refuseWith]
  cases b.standIns.catalog <;> rfl

theorem map_within {α β : Type} (f : α → β) (c : Complaint) (x : Value) (a : Attempt α) :
    (b.within c x a).map f = b.within c x (a.map f) := by
  match a with
  | .ok y => rfl
  | .error (.refused g) => exact map_refuseWith f c x (some g) []
  | .error (.broken m) => rfl

end Builder

/-! ## One clause -/

theorem resolve_spelling (b : Builder) (v : Value) : (b.spelling v).resolve = b.resolve := rfl

theorem fieldName?_spelling (b : Builder) (v : Value) (mode : Mode) (term : Value) :
    fieldName? (b.spelling v) mode.setting mode.entity term
      = fieldName? b mode.setting mode.entity term := by
  cases term with
  | field e name =>
      simp only [fieldName?, Builder.settingsFor, Builder.spelling]
      cases b.standIns.settings <;> cases mode <;> rfl
  | _ => rfl

/-- The entries for the literal are under keys of their own. -/
theorem bareClause_of_literalEntries {s : Settings} {mode : Mode} {token : Token}
    {literal : Option Value} {entries : Dict}
    (h : literalEntries s mode token literal = .ok entries) :
    mode.bareClause entries = entries := by
  cases literal with
  | none => cases mode <;> cases h <;> rfl
  | some raw =>
      cases mode with
      | postMeta =>
          obtain ⟨value, -, h⟩ := bind_eq_ok.1 h
          obtain ⟨shaped, -, h⟩ := bind_eq_ok.1 h
          cases h
          simp [Mode.bareClause, Mode.isAssumed, Mode.operatorKey, Value.isText]
      | taxonomy =>
          obtain ⟨value, -, h⟩ := bind_eq_ok.1 h
          split at h
          · cases h
          · cases h
            simp [Mode.bareClause, Mode.isAssumed, Mode.operatorKey, Value.isText]

section

variable {b : Builder} {on off : Value} (hon : on.truthy = true) (hoff : off.truthy = false)

include hon hoff

theorem operatorEntry_spelling (mode : Mode) (token : Token) :
    (b.spelling off).operatorEntry mode.context mode.operatorKey token =
      ((b.spelling on).operatorEntry mode.context mode.operatorKey token).map mode.bareClause := by
  cases hsettings : b.standIns.settings with
  | some v =>
      simp only [Builder.operatorEntry, Builder.spells, Builder.settingsFor, Builder.spelling,
        hsettings]
      rfl
  | none =>
      have hon' : (b.spelling on).settings.spellsDefaults = true := hon
      have hoff' : (b.spelling off).settings.spellsDefaults = false := hoff
      rw [Builder.operatorEntry_eq (b := b.spelling off) hsettings,
        Builder.operatorEntry_eq (b := b.spelling on) hsettings]
      simp only [Except.map, Builder.written, Builder.writes, hon', hoff', Mode.bareClause,
        Mode.isAssumed, Context.isDefault, Mode.default_context]
      cases htoken : token.text == mode.assumed <;> simp [Value.isText, htoken]

theorem clauseIn_spelling (mode : Mode) (kind : Value) (terms : List Value) (negated : Bool) :
    (b.spelling off).clauseIn mode kind terms negated =
      ((b.spelling on).clauseIn mode kind terms negated).map mode.bareClause := by
  have hfield : ∀ v, fieldName? (b.spelling v) mode.setting mode.entity
      = fieldName? b mode.setting mode.entity :=
    fun v => funext (fieldName?_spelling b v mode)
  have hliteral : ∀ v, literalEntries (b.spelling v).settings mode
      = literalEntries b.settings mode := by
    intro v
    cases mode <;> rfl
  simp only [Builder.clauseIn, resolve_spelling, hfield, hliteral, map_bind]
  refine bind_congr fun token => bind_congr fun found => ?_
  obtain ⟨name, literal⟩ := found
  cases hentries : literalEntries b.settings mode token literal with
  | error f => rfl
  | ok entries =>
      have hfirst : ∀ v, mode.isAssumed (.text mode.fieldKey, v) = false := by
        intro v
        cases mode <;> rfl
      have hkept := bareClause_of_literalEntries hentries
      simp only [operatorEntry_spelling hon hoff]
      cases (b.spelling on).operatorEntry mode.context mode.operatorKey token with
      | error o => rfl
      | ok operator =>
          show Except.ok ((.text mode.fieldKey, name) :: (entries ++ mode.bareClause operator))
            = Except.ok (mode.bareClause ((.text mode.fieldKey, name) :: (entries ++ operator)))
          simp only [Mode.bareClause] at hkept ⊢
          rw [List.filter_cons, List.filter_append, hfirst, hkept]
          rfl

/-- A comparison is refused alike, or its clauses differ in an assumed operator at most. -/
theorem leaf_spelling (mode : Mode) (x : Value) :
    (b.spelling off).leaf .standard mode x =
      ((b.spelling on).leaf .standard mode x).map (bare mode) := by
  cases x with
  | expr kind terms negated =>
      have hbare : ((b.spelling on).leaf .standard mode (.expr kind terms negated)).map (bare mode)
          = ((b.spelling on).leaf .standard mode (.expr kind terms negated)).map mode.bareClause :=
        map_congr_ok fun d hd => bare_of_builds (leaf_eq_ok.1 hd).2
      rw [hbare, leaf_expr, leaf_expr, clauseIn_spelling hon hoff, ← Builder.map_within]
      split
      · exact (Builder.map_refuseWith _ _ _ _ _).symm
      · rfl
  | _ =>
      rw [leaf_standard, leaf_standard]
      exact (Builder.map_refuseWith _ _ _ _ _).symm

end

/-! ## Whole blocks -/

section

variable {b : Builder} {on off : Value} {mode : Mode} {leaf leaf' : Value → Attempt Dict}

mutual

theorem relation_spelling (hleaf : ∀ x, leaf' x = (leaf x).map (bare mode)) (x : Value) :
    (b.spelling off).relation leaf' x = ((b.spelling on).relation leaf x).map (bare mode) := by
  cases x with
  | expr kind terms negated =>
      have hblock : ∀ token, ((b.spelling off).relationTerms leaf' terms).map (Builder.block token)
          = (((b.spelling on).relationTerms leaf terms).map (Builder.block token)).map
              (bare mode) := by
        intro token
        rw [relationTerms_spelling hleaf terms]
        cases (b.spelling on).relationTerms leaf terms with
        | error o => rfl
        | ok parts => exact congrArg Except.ok (bare_block mode token parts).symm
      rw [relation_expr, relation_expr, Builder.map_within, map_bind]
      simp only [resolve_spelling, hblock]
      rfl
  | _ => exact (Builder.map_refuseWith _ _ _ _ _).symm

theorem relationTerms_spelling (hleaf : ∀ x, leaf' x = (leaf x).map (bare mode))
    (terms : List Value) :
    (b.spelling off).relationTerms leaf' terms =
      ((b.spelling on).relationTerms leaf terms).map (List.map (bare mode)) := by
  match terms with
  | [] => rfl
  | term :: rest =>
      have hrest := relationTerms_spelling hleaf rest
      have hpart : (b.spelling off).part leaf' term
          = ((b.spelling on).part leaf term).map (bare mode) := by
        cases term with
        | expr kind terms negated =>
            rw [Builder.part, Builder.part]
            split
            · exact relation_spelling hleaf (.expr kind terms negated)
            · exact hleaf _
        | _ => exact (Builder.map_refuseWith _ _ _ _ _).symm
      rw [relationTerms_cons, relationTerms_cons, hpart, hrest]
      cases (b.spelling on).part leaf term with
      | error o => rfl
      | ok part => cases (b.spelling on).relationTerms leaf rest <;> rfl

end

end

/-- A clause keeps every operator but the assumed one. -/
theorem bare_of_other {b : Builder} {mode : Mode} {kind : Value} {terms : List Value}
    {negated : Bool} {token : Token} {d : Dict}
    (htoken : b.resolve mode.context kind negated = .ok token) (hother : token.text ≠ mode.assumed)
    (h : BuildsClause b mode kind terms negated d) : bare mode d = d := by
  rw [bare_of_builds h]
  obtain ⟨hresolve, -, -, htakes, hoperator⟩ := h
  cases htoken.symm.trans hresolve
  have hentries := bareClause_of_literalEntries (operandEntries_of_literalEntries.1 htakes).1
  have hkept : mode.bareClause (b.written mode.context mode.operatorKey token)
      = b.written mode.context mode.operatorKey token := by
    obtain hwritten | ⟨hwritten, -⟩ := b.written_cases mode.context mode.operatorKey token
    · simp [hwritten, Mode.bareClause, Mode.isAssumed, Value.isText, hother]
    · rw [hwritten]
      rfl
  rw [Builder.operatorEntry_eq_ok hoperator]
  simp only [Mode.bareClause] at hentries hkept ⊢
  rw [List.filter_cons, List.filter_append, hentries, hkept]
  cases mode <;> rfl

/-- Two builders that differ in whether operators are spelled out refuse the same trees in the same
words, and otherwise the one's block is the other's without the assumed operators. A clause with
any other operator is the same from both. -/
theorem standardRelation_spelling (b : Builder) (mode : Mode) (on off x : Value)
    (hon : on.truthy = true) (hoff : off.truthy = false) :
    (b.spelling off).standardRelation mode x
      = ((b.spelling on).standardRelation mode x).map (bare mode) ∧
    ∀ kind terms negated token, (b.spelling on).resolve mode.context kind negated = .ok token →
      token.text ≠ mode.assumed →
      (b.spelling off).leaf .standard mode (.expr kind terms negated)
        = (b.spelling on).leaf .standard mode (.expr kind terms negated) := by
  refine ⟨relation_spelling (leaf_spelling hon hoff mode) x, ?_⟩
  intro kind terms negated token htoken hother
  have hkept : ∀ d, (b.spelling on).leaf .standard mode (.expr kind terms negated) = .ok d →
      bare mode d = id d :=
    fun d hd => bare_of_other htoken hother (leaf_eq_ok.1 hd).2
  rw [leaf_spelling hon hoff, map_congr_ok hkept]
  cases (b.spelling on).leaf .standard mode (.expr kind terms negated) <;> rfl

/-- Of two operators the one in the inner group goes without saying. -/
theorem standardRelation_spelling_of_nested :
    let genre := Value.expr (.comparison .equal)
      [.field (.text "tax") (.text "genre"), .literal (.int 5)] true
    let tag := Value.expr (.comparison .equal)
      [.field (.text "tax") (.text "tag"), .literal (.text "new")] false
    let x := Value.expr (.junction .and) [genre, .expr (.junction .or) [tag] false] false
    let notFive : Dict := [(.text "taxonomy", .text "genre"), (.text "field", .text "term_id"),
      (.text "terms", .list [.int 5]), (.text "operator", .text "NOT IN")]
    let new : Dict := [(.text "taxonomy", .text "tag"), (.text "field", .text "slug"),
      (.text "terms", .list [.text "new"])]
    let spelled : Dict := new ++ [(.text "operator", .text "IN")]
    let b : Builder := {}
    (b.spelling (.text "yes")).standardRelation .taxonomy x
        = .ok (Builder.block .and [notFive, Builder.block .or [spelled]]) ∧
      (b.spelling .null).standardRelation .taxonomy x
        = .ok (Builder.block .and [notFive, Builder.block .or [new]]) ∧
      (b.spelling .null).leaf .standard .taxonomy genre
        = (b.spelling (.text "yes")).leaf .standard .taxonomy genre := by
  intro genre tag x notFive new spelled b
  have hgenre : (b.spelling (.text "yes")).leaf .standard .taxonomy genre = .ok notFive := by
    refine leaf_eq_ok.2 ⟨Value.isJunctionKind_comparison _, Builder.taxonomyClause_eq_ok.1 ?_⟩
    cbv
  have htag : (b.spelling (.text "yes")).leaf .standard .taxonomy tag = .ok spelled := by
    refine leaf_eq_ok.2 ⟨Value.isJunctionKind_comparison _, Builder.taxonomyClause_eq_ok.1 ?_⟩
    cbv
  have hinner : (b.spelling (.text "yes")).relation
      ((b.spelling (.text "yes")).leaf .standard .taxonomy) (.expr (.junction .or) [tag] false)
        = .ok (Builder.block .or [spelled]) :=
    relation_expr_eq_ok.2 ⟨_, _, rfl, relationTerms_eq_ok.2
      (.cons (.comparison (Value.isJunctionKind_comparison _) htag) .nil), rfl⟩
  have hbuilt : (b.spelling (.text "yes")).standardRelation .taxonomy x
      = .ok (Builder.block .and [notFive, Builder.block .or [spelled]]) :=
    relation_expr_eq_ok.2 ⟨_, _, rfl, relationTerms_eq_ok.2
      (.cons (.comparison (Value.isJunctionKind_comparison _) hgenre)
        (.cons (.group (Value.isJunctionKind_junction _) hinner) .nil)), rfl⟩
  obtain ⟨hbare, hother⟩ :=
    standardRelation_spelling b .taxonomy (.text "yes") .null x rfl rfl
  refine ⟨hbuilt, ?_, hother _ _ _ .notAmong rfl (by decide)⟩
  have hdropped : bare .taxonomy spelled = new := by
    cbv
  have hkept : bare .taxonomy notFive = notFive := by
    cbv
  rw [hbare, hbuilt]
  simp only [Except.map, bare_block, List.map_cons, List.map_nil, hkept, hdropped]

end PostQuery
