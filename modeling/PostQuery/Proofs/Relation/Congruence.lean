import PostQuery.Proofs.Dict.Equal
import PostQuery.Proofs.Relation.Form
import PostQuery.Proofs.Relation.Words

/-!
# Blocks of equal trees

A builder goes through two equal trees in the same steps. It finds the same operators, since equal
kinds that differ spell none, and the same fields, if equal entities cannot be told apart by the
name that the settings have for one. So it makes a block of both or of neither, whatever the
literals are.

What is in the blocks is another matter. The cast type of a clause is that of the kind of number in
its literal, terms are looked up by number only if they are integers, and a moment is stored as it
reads and not as the instant it is. `LiteralsFit` is what it takes for two equal trees not to differ
in these, and then their blocks are equal.
-/

namespace PostQuery

open Value

/-! ## Two attempts -/

/-- The two attempts end alike: in things that are related, both in a refusal, or both in a
break. -/
inductive Matches {α : Type} (R : α → α → Prop) : Attempt α → Attempt α → Prop
  | ok {y y' : α} (h : R y y') : Matches R (.ok y) (.ok y')
  | refused (f f' : Failure) : Matches R (.error (.refused f)) (.error (.refused f'))
  | broken (m m' : Misuse) : Matches R (.error (.broken m)) (.error (.broken m'))

namespace Matches

variable {α β : Type} {R : α → α → Prop} {S : β → β → Prop} {a a' : Attempt α}

theorem refl (hR : ∀ y, R y y) (a : Attempt α) : Matches R a a := by
  match a with
  | .ok y => exact ok (hR y)
  | .error (.refused f) => exact refused f f
  | .error (.broken m) => exact broken m m

theorem bind {g g' : α → Attempt β} (ha : Matches R a a')
    (hg : ∀ y y', a = .ok y → a' = .ok y' → R y y' → Matches S (g y) (g' y')) :
    Matches S (a >>= g) (a' >>= g') := by
  cases ha with
  | ok h => exact hg _ _ rfl rfl h
  | refused f f' => exact refused f f'
  | broken m m' => exact broken m m'

theorem map {g g' : α → β} (ha : Matches R a a') (hg : ∀ y y', R y y' → S (g y) (g' y')) :
    Matches S (a.map g) (a'.map g') := by
  cases ha with
  | ok h => exact ok (hg _ _ h)
  | refused f f' => exact refused f f'
  | broken m m' => exact broken m m'

/-- Steps that can only refuse match if both succeed or neither does. -/
theorem orRefused {e e' : Except Failure α} (haccepts : (∃ y, e = .ok y) ↔ ∃ y', e' = .ok y')
    (h : ∀ y y', e = .ok y → e' = .ok y' → R y y') :
    Matches R (orRefused e) (PostQuery.orRefused e') := by
  cases e with
  | ok y =>
      obtain ⟨y', rfl⟩ := haccepts.1 ⟨y, rfl⟩
      exact ok (h y y' rfl rfl)
  | error f =>
      cases e' with
      | ok y' =>
          obtain ⟨y, hy⟩ := haccepts.2 ⟨y', rfl⟩
          cases hy
      | error f' => exact refused f f'

theorem refuseWith (b : Builder) (c : Complaint) (x x' : Value) (cause cause' : Option Failure)
    (causes causes' : List Failure) :
    Matches R (b.refuseWith c x cause causes) (b.refuseWith c x' cause' causes') := by
  rw [Builder.refuseWith, Builder.refuseWith]
  cases b.standIns.catalog with
  | none => exact refused _ _
  | some v => exact broken _ _

theorem refuse (b : Builder) (c : Complaint) (x x' : Value) :
    Matches R (b.refuse c x) (b.refuse c x') := refuseWith b c x x' none none [] []

theorem within (b : Builder) (c : Complaint) (x x' : Value) (ha : Matches R a a') :
    Matches R (b.within c x a) (b.within c x' a') := by
  cases ha with
  | ok h => exact ok h
  | refused f f' => exact refuseWith b c x x' _ _ _ _
  | broken m m' => exact broken m m'

end Matches

/-! ## Trees -/

/-- The terms stand in the same place of two trees, where the first tree has the given ones. -/
inductive Corresponds (t t' : Value) : List Value → Value → Value → Prop
  | here {kind kind' : Value} {terms terms' : List Value} {negated negated' : Bool}
      (h : (t, t') ∈ terms.zip terms') :
      Corresponds t t' terms (.expr kind terms negated) (.expr kind' terms' negated')
  | deeper {kind kind' x x' : Value} {around terms terms' : List Value} {negated negated' : Bool}
      (h : (x, x') ∈ terms.zip terms') (hx : Corresponds t t' around x x') :
      Corresponds t t' around (.expr kind terms negated) (.expr kind' terms' negated')

/-- Some of the terms is a field of the entity that the mode has clauses for. -/
def Mode.Names (s : Settings) (terms : List Value) (mode : Mode) : Prop :=
  ∃ e name, .field e name ∈ terms ∧ e.equal (mode.entity s) = .ok true

/-- The literals are of the same kind as far as the mode has clauses for it. Terms are told apart
only by whether they are looked up by number, and not even that if they always are. -/
def Mode.SameKind (s : Settings) (v v' : Value) : Mode → Prop
  | .postMeta => v.castType = v'.castType
  | .taxonomy =>
    s.termField = .text "term_id" ∨ (v.castType = .numeric ↔ v'.castType = .numeric)

/-- The literals have the same readings, and the same kind for a field beside them. -/
structure Fits (s : Settings) (around : List Value) (v v' : Value) : Prop where
  reading : List.Forall₂ SameReading v.asList v'.asList
  kind : ∀ mode : Mode, mode.Names s around → mode.SameKind s v v'

/-- Any two literals in the same place of two trees fit each other. -/
def LiteralsFit (s : Settings) (x x' : Value) : Prop :=
  ∀ around v v', Corresponds (.literal v) (.literal v') around x x' → Fits s around v v'

/-- Equal values cannot be told apart by comparing them with this one. -/
def Value.TellsAlike (c : Value) : Prop :=
  ∀ v w : Value, v.eqv w = true → v.equal c = w.equal c

/-- A dictionary need not do so: whichever entry of the other one comes first decides whether there
is a difference to be found before the decimal that signals. -/
example :
    let entity := Value.dict [(.int 1, .int 7), (.int 2, .decimal (.nan false true 0))]
    let v := Value.dict [(.int 1, .int 5), (.int 2, .int 6)]
    let w := Value.dict [(.int 2, .int 6), (.int 1, .int 5)]
    v.equal w = .ok true ∧ v.equal entity = .ok false ∧ w.equal entity = .error .signal := by
  refine ⟨?_, ?_, ?_⟩ <;> cbv

/-! ## Operands -/

section

variable {P : Prop} {b : Builder}

/-- The two literals are equal, and fit each other if the condition holds. -/
structure SameLiteral (P : Prop) (s : Settings) (around : List Value) (v v' : Value) : Prop where
  equal : v.eqv v' = true
  fits : P → Fits s around v v'

/-- The two terms are equal, and if they are literals they fit each other. -/
structure SameTerm (P : Prop) (s : Settings) (around : List Value) (t t' : Value) : Prop where
  equal : t.eqv t' = true
  literal : Option.Rel (SameLiteral P s around) t.literal? t'.literal?

theorem matches_fieldName? {setting : String} {entity : Settings → Value}
    (hentity : (entity b.settings).TellsAlike) {t t' : Value} (h : t.eqv t' = true) :
    Matches (Option.Rel fun n n' => n.eqv n' = true) (fieldName? b setting entity t)
      (fieldName? b setting entity t') := by
  have hother : ∀ {u : Value}, u.isTerm = false → fieldName? b setting entity u = .ok none := by
    intro u hu
    cases u <;> first | rfl | cases hu
  cases resemblesTerm_of_eqv h with
  | field he hn =>
      rw [fieldName?, fieldName?, Builder.settingsFor]
      cases b.standIns.settings with
      | some v => exact .broken _ _
      | none =>
          change Matches _ (unbroken (equal _ (entity b.settings) >>= _))
            (unbroken (equal _ (entity b.settings) >>= _))
          rw [hentity _ _ he]
          cases equal _ (entity b.settings) with
          | error m => exact .broken _ _
          | ok found =>
              cases found with
              | true => exact .ok (.some hn)
              | false => exact .ok .none
  | other hv hw =>
      rw [hother hv, hother hw]
      exact .ok .none
  | _ => exact .ok .none

/-- A term that is not taken for the field has to be a literal. -/
theorem scanOperands_cons_literal? (field? : Value → Attempt (Option Value)) (term : Value)
    (rest : List Value) (field literal : Option Value) :
    scanOperands field? (term :: rest) field literal
      = (if field.isSome then pure none else field? term) >>= fun taken =>
          match taken with
          | some name => scanOperands field? rest (some name) literal
          | none =>
            match literal, term.literal? with
            | none, some v => scanOperands field? rest field (some v)
            | _, _ => .error (.refused (.operands (.unexpected term))) := by
  rw [scanOperands_cons]
  refine bind_congr fun taken => ?_
  cases taken with
  | some name => rfl
  | none => cases literal <;> cases term <;> rfl

theorem matches_scanOperands {field? : Value → Attempt (Option Value)}
    {N L : Value → Value → Prop} {terms terms' : List Value}
    (h : List.Forall₂ (fun t t' => Matches (Option.Rel N) (field? t) (field? t') ∧
      Option.Rel L t.literal? t'.literal?) terms terms')
    {field field' literal literal' : Option Value} (hfield : Option.Rel N field field')
    (hliteral : Option.Rel L literal literal') :
    Matches (fun p p' => Option.Rel N p.1 p'.1 ∧ Option.Rel L p.2 p'.2)
      (scanOperands field? terms field literal) (scanOperands field? terms' field' literal') := by
  induction h generalizing field field' literal literal' with
  | nil => exact .ok ⟨hfield, hliteral⟩
  | @cons t t' rest rest' hterm _ ih =>
      obtain ⟨hname, hvalue⟩ := hterm
      rw [scanOperands_cons_literal?, scanOperands_cons_literal?]
      have htaken : Matches (Option.Rel N) (if field.isSome then pure none else field? t)
          (if field'.isSome then pure none else field? t') := by
        cases hfield with
        | some _ => exact .ok .none
        | none => exact hname
      refine .bind htaken fun taken taken' _ _ hsame => ?_
      cases hsame with
      | some hsame => exact ih (.some hsame) hliteral
      | none =>
          generalize t.literal? = l, t'.literal? = l' at hvalue
          cases hliteral with
          | some _ => exact .refused _ _
          | none =>
              cases hvalue with
              | some hsame => exact ih hfield (.some hsame)
              | none => exact .refused _ _

theorem matches_operands {field? : Value → Attempt (Option Value)}
    {N L : Value → Value → Prop} {terms terms' : List Value}
    (h : List.Forall₂ (fun t t' => Matches (Option.Rel N) (field? t) (field? t') ∧
      Option.Rel L t.literal? t'.literal?) terms terms') (literalOptional : Bool) :
    Matches (fun p p' => N p.1 p'.1 ∧ Option.Rel L p.2 p'.2)
      (operands field? terms literalOptional) (operands field? terms' literalOptional) := by
  refine .bind (matches_scanOperands h .none .none) fun p p' _ _ hsame => ?_
  obtain ⟨field, literal⟩ := p
  obtain ⟨field', literal'⟩ := p'
  obtain ⟨hfield, hliteral⟩ := hsame
  have hnone : literal.isNone = literal'.isNone := by
    cases hliteral <;> rfl
  cases hfield with
  | none => exact .refused _ _
  | some hname =>
      dsimp only
      rw [hnone]
      split
      · exact .refused _ _
      · exact .ok ⟨hname, hliteral⟩

end

/-! ## Entries -/

section

variable {P : Prop}

theorem SameEntry.text (s : String) {v v' : Value} (h : P → v.eqv v' = true) :
    SameEntry P (.text s, v) (.text s, v') :=
  ⟨isKey_text s, isKey_text s, by rw [eqv_text, BEq.rfl], h⟩

/-- Under different texts nothing stands twice. -/
theorem Dict.isProper_of_texts {d : Dict} {names : List String}
    (h : d.map Prod.fst = names.map Value.text) (hdistinct : names.Nodup) : d.IsProper := by
  constructor
  · rw [h, List.forall_mem_map]
    exact fun name _ => isKey_text name
  · rw [h, List.pairwise_map]
    refine hdistinct.imp fun hne => ?_
    rw [eqv_text, beq_eq_false_iff_ne]
    exact hne

/-- If the condition holds the two dictionaries are equal. -/
def SameDict (P : Prop) (d d' : Dict) : Prop := P → equal (.dict d) (.dict d') = .ok true

theorem exists_literalEntries {s : Settings} {mode : Mode} {token : Token} {raw : Value} :
    (∃ d, literalEntries s mode token (some raw) = .ok d) ↔
      raw.isNormalizable = true ∧ mode.takes token raw.size? = true := by
  rw [← exists_normal]
  constructor
  · rintro ⟨d, hd⟩
    cases operandEntries_of_literalEntries.2 ⟨hd, fun h => nomatch h⟩ with
    | some hnormal htakes =>
        rw [size?_normal hnormal] at htakes
        exact ⟨⟨_, hnormal⟩, htakes⟩
  · rintro ⟨⟨value, hnormal⟩, htakes⟩
    rw [← size?_normal hnormal] at htakes
    exact ⟨_, (operandEntries_of_literalEntries.1 (.some hnormal htakes)).1⟩

theorem keys_literalEntries {s : Settings} {mode : Mode} {token : Token} {literal : Option Value}
    {d : Dict} (h : literalEntries s mode token literal = .ok d) :
    d.map Prod.fst = (if literal.isSome then mode.operandKeys else []).map Value.text := by
  cases literal with
  | none =>
      cases mode <;> cases h <;> rfl
  | some raw =>
      cases operandEntries_of_literalEntries.2 ⟨h, fun h => nomatch h⟩ with
      | some _ _ => cases mode <;> rfl

theorem matches_literalEntries {s : Settings} (hchecked : s.checked = .ok s) {mode : Mode}
    (token : Token) {around : List Value} (hnames : mode.Names s around)
    {literal literal' : Option Value} (h : Option.Rel (SameLiteral P s around) literal literal') :
    Matches (List.Forall₂ (SameEntry P)) (orRefused (literalEntries s mode token literal))
      (orRefused (literalEntries s mode token literal')) := by
  cases h with
  | none => cases mode <;> exact .ok .nil
  | @some raw raw' hraw =>
      have hresembles := resembles_of_eqv hraw.equal
      refine .orRefused ?_ fun d d' hd hd' => ?_
      · rw [exists_literalEntries, exists_literalEntries, hresembles.isNormalizable_eq,
          hresembles.size?_eq]
      · cases operandEntries_of_literalEntries.2 ⟨hd, fun h => nomatch h⟩ with
        | @some _ value hnormal _ =>
            cases operandEntries_of_literalEntries.2 ⟨hd', fun h => nomatch h⟩ with
            | @some _ value' hnormal' _ =>
                have hvalue : P → value.eqv value' = true := fun hP =>
                  eqv_normal hraw.equal (hraw.fits hP).reading hnormal hnormal'
                have hlist : P → (Value.list value.asList).eqv (.list value'.asList) = true :=
                  fun hP => eqv_list
                    (forall₂_normal hraw.equal (hraw.fits hP).reading hnormal hnormal')
                cases mode with
                | postMeta =>
                    refine .cons (.text _ fun hP => ?_) (.cons (.text _ fun hP => ?_) .nil)
                    · split
                      · exact hlist hP
                      · exact hvalue hP
                    · have htype : raw.castType = raw'.castType :=
                        (hraw.fits hP).kind .postMeta hnames
                      rw [htype, eqv_text, BEq.rfl]
                | taxonomy =>
                    refine .cons (.text _ fun hP => ?_) (.cons (.text _ hlist) .nil)
                    rw [termField_congr hraw.equal ((hraw.fits hP).kind .taxonomy hnames) hnormal
                      hnormal']
                    obtain ⟨name, -, hname⟩ := termField_mem hchecked value'.asList
                    rw [hname, eqv_text, BEq.rfl]

end

/-! ## Clauses -/

section

variable {P : Prop} {b : Builder} {mode : Mode} {kind kind' : Value} {terms terms' : List Value}
  {negated : Bool}

theorem matches_resolve (h : kind.eqv kind' = true) (ctx : Context) (negated : Bool) :
    Matches Eq (b.resolve ctx kind negated) (b.resolve ctx kind' negated) := by
  rw [Builder.resolve, Builder.resolve]
  split
  · exact .broken _ _
  · exact .broken _ _
  · obtain rfl | ⟨hkind, hkind'⟩ := eq_or_isWordless h
    · exact .refl (fun _ => rfl) _
    · obtain ⟨f, hf⟩ := hkind.resolve ctx negated
      obtain ⟨f', hf'⟩ := hkind'.resolve ctx negated
      rw [hf, hf']
      exact .refused f f'

theorem isJunctionKind_congr (h : kind.eqv kind' = true) :
    kind.isJunctionKind = kind'.isJunctionKind := by
  obtain rfl | ⟨hkind, hkind'⟩ := eq_or_isWordless h
  · rfl
  · rw [hkind.isJunctionKind_eq_false, hkind'.isJunctionKind_eq_false]

theorem matches_operatorEntry (ctx : Context) (name : String) (token : Token) :
    Matches (List.Forall₂ (SameEntry P)) (b.operatorEntry ctx name token)
      (b.operatorEntry ctx name token) := by
  have hself : List.Forall₂ (SameEntry P) (b.written ctx name token)
      (b.written ctx name token) := by
    rw [Builder.written]
    split
    · exact .cons (.text _ fun _ => by rw [eqv_text, BEq.rfl]) .nil
    · exact .nil
  cases hoperator : b.operatorEntry ctx name token with
  | ok d =>
      rw [Builder.operatorEntry_eq_ok hoperator]
      exact .ok hself
  | error o =>
      cases o with
      | refused f => exact .refused f f
      | broken m => exact .broken m m

theorem nodup_clauseKeys (mode : Mode) (hasOperand hasOperator : Bool) :
    (mode.clauseKeys hasOperand hasOperator).Nodup := by
  cases mode <;> cases hasOperand <;> cases hasOperator <;> decide

theorem isProper_clause (b : Builder) {entries : Dict} {token : Token} {literal : Option Value}
    (h : literalEntries b.settings mode token literal = .ok entries) (name : Value) :
    Dict.IsProper ((.text mode.fieldKey, name) ::
      (entries ++ b.written mode.context mode.operatorKey token)) := by
  refine Dict.isProper_of_texts ?_
    (nodup_clauseKeys mode literal.isSome (b.writes mode.context token))
  rw [List.map_cons, List.map_append, keys_literalEntries h, Mode.clauseKeys, List.map_cons,
    List.map_append, Builder.written]
  congr 2
  split <;> rfl

theorem matches_clauseIn (hchecked : b.settings.checked = .ok b.settings)
    (hentity : (mode.entity b.settings).TellsAlike) (hkind : kind.eqv kind' = true)
    (hterms : List.Forall₂ (SameTerm P b.settings terms) terms terms') :
    Matches (SameDict P) (b.clauseIn mode kind terms negated)
      (b.clauseIn mode kind' terms' negated) := by
  refine .bind (matches_resolve hkind _ _) fun token token' _ _ htoken => ?_
  subst htoken
  refine .bind (matches_operands (N := fun n n' => n.eqv n' = true)
    (hterms.imp fun t t' h => ⟨matches_fieldName? hentity h.equal, h.literal⟩) _)
    fun (name, found) (name', found') hoperands _ ⟨hname, hliteral⟩ => ?_
  have hnames : mode.Names b.settings terms := by
    obtain ⟨term, hterm, hterms, -⟩ := (operands_eq_ok fun _ => rfl).1 hoperands
    obtain ⟨e, rfl⟩ := fieldName?_eq_ok hterm
    exact ⟨e, name, hterms.field_mem, (fieldName?_field_eq_ok hterm).1⟩
  refine .bind (matches_literalEntries hchecked token hnames hliteral)
    fun entries entries' hentries _ hsame => ?_
  refine .bind (matches_operatorEntry (P := P) _ _ _)
    fun operator operator' hoperator _ hsame' => ?_
  have hproper := isProper_clause b (mapError_eq_ok.1 hentries) name
  rw [← Builder.operatorEntry_eq_ok hoperator] at hproper
  exact .ok fun hP => Dict.equal_of_sameEntry hP
    (.cons (.text _ fun _ => hname) (List.rel_append hsame hsame')) hproper

end

/-! ## Blocks -/

theorem isExpr_congr {x x' : Value} (h : x.eqv x' = true) : x.isExpr = x'.isExpr := by
  have hother : ∀ {u : Value}, u.isTerm = false → u.isExpr = false := by
    intro u hu
    cases u <;> first | rfl | cases hu
  cases resemblesTerm_of_eqv h with
  | other hv hw => rw [hother hv, hother hw]
  | _ => rfl

/-- What equals a node is a node with an equal kind and equal terms. -/
theorem exists_expr_of_eqv {kind : Value} {terms : List Value} {negated : Bool} {y : Value}
    (h : (Value.expr kind terms negated).eqv y = true) :
    ∃ kind' terms', y = .expr kind' terms' negated ∧ kind.eqv kind' = true ∧
      List.Forall₂ (fun t t' => t.eqv t' = true) terms terms' := by
  cases resemblesTerm_of_eqv h with
  | expr hkind hterms => exact ⟨_, _, rfl, hkind, hterms⟩
  | other hv _ => cases hv

theorem sameTerm_of_eqv {P : Prop} {s : Settings} {around : List Value} {t t' : Value}
    (h : t.eqv t' = true)
    (hfits : P → ∀ v v', t = .literal v → t' = .literal v' → Fits s around v v') :
    SameTerm P s around t t' := by
  have hother : ∀ {u : Value}, u.isTerm = false → u.literal? = none := by
    intro u hu
    cases u <;> first | rfl | cases hu
  refine ⟨h, ?_⟩
  cases resemblesTerm_of_eqv h with
  | literal hpart => exact .some ⟨hpart, fun hP => hfits hP _ _ rfl rfl⟩
  | other hv hw =>
      rw [hother hv, hother hw]
      exact .none
  | _ => exact .none

section

variable {s : Settings} {kind kind' : Value} {terms terms' : List Value} {negated negated' : Bool}

theorem LiteralsFit.of_mem {x x' : Value}
    (h : LiteralsFit s (.expr kind terms negated) (.expr kind' terms' negated'))
    (hx : (x, x') ∈ terms.zip terms') : LiteralsFit s x x' :=
  fun around v v' hv => h around v v' (.deeper hx hv)

theorem sameTerms_of_literalsFit {P : Prop}
    (hterms : List.Forall₂ (fun t t' => t.eqv t' = true) terms terms')
    (h : P → LiteralsFit s (.expr kind terms negated) (.expr kind' terms' negated')) :
    List.Forall₂ (SameTerm P s terms) terms terms' := by
  rw [List.forall₂_iff_zip] at hterms ⊢
  refine ⟨hterms.1, fun {t t'} hmem => sameTerm_of_eqv (hterms.2 hmem) ?_⟩
  rintro hP v v' rfl rfl
  exact h hP _ v v' (.here hmem)

end

theorem isProper_block (token : Token) (parts : List Dict) :
    Dict.IsProper (Builder.block token parts) := by
  have hkey : ∀ i : Int, (Value.int i).IsKey := fun _ => rfl
  constructor
  · rw [block_keys, List.forall_mem_cons, List.forall_mem_map]
    exact ⟨isKey_text _, fun i _ => hkey i⟩
  · rw [block_keys, List.pairwise_cons, List.pairwise_map, List.forall_mem_map]
    constructor
    · intro i _
      exact (eqv_text_eq_false Value.noConfusion).1
    · refine List.nodup_range.imp fun {i j} hne => ?_
      rw [Bool.eq_false_iff]
      intro hij
      exact hne (Int.ofNat.inj (eq_of_eqv_int hij))

theorem sameEntry_parts {P : Prop} {parts parts' : List Dict}
    (h : List.Forall₂ (SameDict P) parts parts') (n : Nat) :
    List.Forall₂ (SameEntry P) ((parts.zipIdx n).map fun p => (.int p.2, .dict p.1))
      ((parts'.zipIdx n).map fun p => (.int p.2, .dict p.1)) := by
  induction h generalizing n with
  | nil => exact .nil
  | cons hpart _ ih =>
      have hself : (Value.int n).eqv (.int n) = true := eqv_of_number? rfl rfl
      exact .cons ⟨rfl, rfl, hself, fun hP => eqv_of_equal (hpart hP)⟩ (ih (n + 1))

theorem sameDict_block {P : Prop} {parts parts' : List Dict}
    (h : List.Forall₂ (SameDict P) parts parts') (token : Token) :
    SameDict P (Builder.block token parts) (Builder.block token parts') := by
  intro hP
  refine Dict.equal_of_sameEntry hP (.cons (.text _ fun _ => ?_) (sameEntry_parts h 0))
    (isProper_block token parts)
  rw [eqv_text, BEq.rfl]

section

variable {P : Prop} {b : Builder} {mode : Mode}

theorem relation_of_not_isExpr {x : Value} (h : x.isExpr = false) (leaf : Value → Attempt Dict) :
    b.relation leaf x = b.refuse .relation x := by
  cases x with
  | expr => cases h
  | _ => rfl

theorem part_of_not_isExpr {x : Value} (h : x.isExpr = false) (leaf : Value → Attempt Dict) :
    b.part leaf x = b.refuse .relationTerm x := by
  cases x with
  | expr => cases h
  | _ => rfl

theorem matches_leaf (hchecked : b.settings.checked = .ok b.settings)
    (hentity : (mode.entity b.settings).TellsAlike) {kind kind' : Value}
    {terms terms' : List Value} {negated : Bool} (hkind : kind.eqv kind' = true)
    (hterms : List.Forall₂ (fun t t' => t.eqv t' = true) terms terms')
    (hfits : P → LiteralsFit b.settings (.expr kind terms negated)
      (.expr kind' terms' negated)) :
    Matches (SameDict P) (b.leaf .standard mode (.expr kind terms negated))
      (b.leaf .standard mode (.expr kind' terms' negated)) := by
  rw [leaf_expr, leaf_expr, isJunctionKind_congr hkind]
  split
  · exact .refuse _ _ _ _
  · exact .within _ _ _ _
      (matches_clauseIn hchecked hentity hkind (sameTerms_of_literalsFit hterms hfits))

mutual

theorem matches_relation (hchecked : b.settings.checked = .ok b.settings)
    (hentity : (mode.entity b.settings).TellsAlike) (x x' : Value) (h : x.eqv x' = true)
    (hfits : P → LiteralsFit b.settings x x') :
    Matches (SameDict P) (b.standardRelation mode x) (b.standardRelation mode x') := by
  cases x with
  | expr kind terms negated =>
      obtain ⟨kind', terms', rfl, hkind, hterms⟩ := exists_expr_of_eqv h
      rw [Builder.standardRelation, Builder.standardRelation, relation_expr, relation_expr]
      refine .within _ _ _ _ (.bind (matches_resolve hkind _ _) fun token token' _ _ htoken => ?_)
      subst htoken
      refine .map (matches_relationTerms hchecked hentity terms terms' ?_)
        fun parts parts' hparts => sameDict_block hparts token
      rw [List.forall₂_iff_zip] at hterms ⊢
      exact ⟨hterms.1, fun hmem => ⟨hterms.2 hmem, fun hP => (hfits hP).of_mem hmem⟩⟩
  | _ =>
      have hexpr := isExpr_congr h
      rw [Builder.standardRelation, Builder.standardRelation, relation_of_not_isExpr rfl,
        relation_of_not_isExpr hexpr.symm]
      exact .refuse _ _ _ _

theorem matches_relationTerms (hchecked : b.settings.checked = .ok b.settings)
    (hentity : (mode.entity b.settings).TellsAlike) (terms terms' : List Value)
    (h : List.Forall₂ (fun x x' => x.eqv x' = true ∧
      (P → LiteralsFit b.settings x x')) terms terms') :
    Matches (List.Forall₂ (SameDict P)) (b.relationTerms (b.leaf .standard mode) terms)
      (b.relationTerms (b.leaf .standard mode) terms') := by
  match terms, terms', h with
  | [], [], .nil => exact .ok .nil
  | term :: rest, term' :: rest', .cons ⟨hterm, hfits⟩ hrest =>
      have hpart : Matches (SameDict P) (b.part (b.leaf .standard mode) term)
          (b.part (b.leaf .standard mode) term') := by
        cases term with
        | expr kind terms negated =>
            obtain ⟨kind', terms', rfl, hkind, hterms⟩ := exists_expr_of_eqv hterm
            rw [Builder.part, Builder.part, isJunctionKind_congr hkind]
            split
            · exact matches_relation hchecked hentity (.expr kind terms negated) _ hterm hfits
            · exact matches_leaf hchecked hentity hkind hterms hfits
        | _ =>
            have hexpr := isExpr_congr hterm
            rw [part_of_not_isExpr rfl, part_of_not_isExpr hexpr.symm]
            exact .refuse _ _ _ _
      rw [relationTerms_cons, relationTerms_cons]
      refine .bind hpart fun part part' _ _ hsame => ?_
      refine .bind (matches_relationTerms hchecked hentity rest rest' hrest)
        fun parts parts' _ _ hsames => ?_
      exact .ok (.cons hsame hsames)

end

end

end PostQuery
