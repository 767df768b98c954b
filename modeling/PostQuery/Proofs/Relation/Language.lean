import PostQuery.Proofs.Dict
import PostQuery.Proofs.Relation.Built
import PostQuery.Proofs.Value.Normal

/-!
# The trees that have a block

A builder finds out on the way whether a tree has a block: it looks operators up, scans terms with
two slots to fill, normalizes values and checks their sizes, and gives up at the first thing that is
wrong. `HasBlock` is the same language said of the tree, with no order in it and no attempt.

There are two questions about the kind of a node, and the grammar keeps them apart. A group needs a
kind that is spelled as a junction, with every member of an enumeration opened. Whether a term is
taken for a group or for a comparison is asked of the key of its kind, for which one member is
opened and no more.
-/

namespace PostQuery

/-- The comparison makes a clause about a field of the entity: it asks whether the field is there, or
it has a value that its operator takes. -/
inductive IsLegal (mode : Mode) (entity : String) (kind : Value) (terms : List Value)
    (negated : Bool) : Prop
  | presence {token : Token} {name : Value} (resolves : mode.token? kind negated = some token)
      (asks : token.asksPresence = true)
      (operands : AreOperands (.field (.text entity) name) terms none)
  | valued {token : Token} {name raw : Value} (resolves : mode.token? kind negated = some token)
      (operands : AreOperands (.field (.text entity) name) terms (some raw))
      (normal : raw.isNormalizable = true) (takes : mode.takes token raw.size? = true)

mutual

/-- The tree has a block in the mode, about fields of the entity. -/
inductive HasBlock (mode : Mode) (entity : String) : Value → Prop
  | group {kind : Value} {terms : List Value} {j : Junction} (hkind : kind.junction? = some j)
      (hterms : ∀ term ∈ terms, HasPart mode entity term) :
      HasBlock mode entity (.expr kind terms false)

/-- The tree has a part in the block of a group that it is a term of. -/
inductive HasPart (mode : Mode) (entity : String) : Value → Prop
  | group {kind : Value} {terms : List Value} {negated : Bool}
      (hkind : kind.isJunctionKind = true) (h : HasBlock mode entity (.expr kind terms negated)) :
      HasPart mode entity (.expr kind terms negated)
  | comparison {kind : Value} {terms : List Value} {negated : Bool}
      (hkind : kind.isJunctionKind = false) (h : IsLegal mode entity kind terms negated) :
      HasPart mode entity (.expr kind terms negated)

end

/-! ## Comparisons -/

/-- The name of a field of the entity. -/
def Value.nameOf? (entity : String) : Value → Option Value
  | .field e name => if e.isText entity then some name else none
  | _ => none

theorem Value.nameOf?_eq_some {entity : String} {term name : Value} :
    term.nameOf? entity = some name ↔ term = .field (.text entity) name := by
  cases term with
  | field e n => simp [nameOf?, isText_iff]
  | _ => simp [nameOf?]

variable {b : Builder} {mode : Mode} {entity : String} {kind : Value} {terms : List Value}
  {negated : Bool}

theorem fieldName?_eq (hparts : b.standIns = {}) (hentity : mode.entity b.settings = .text entity)
    (term : Value) :
    fieldName? b mode.setting mode.entity term = .ok (term.nameOf? entity) := by
  cases term with
  | field e name =>
      have hsettings : b.settingsFor mode.setting = .ok b.settings := by
        rw [Builder.settingsFor, hparts]
      rw [fieldName?, hsettings]
      change unbroken (e.equal (mode.entity b.settings) >>= _) = _
      rw [hentity, Value.equal_text, Value.nameOf?]
      cases e.isText entity <;> rfl
  | _ => rfl

theorem buildsClause_iff (hparts : b.standIns = {})
    (hentity : mode.entity b.settings = .text entity) :
    (∃ d, BuildsClause b mode kind terms negated d) ↔ IsLegal mode entity kind terms negated := by
  have hresolve : ∀ token, b.resolve mode.context kind negated = .ok token ↔
      mode.token? kind negated = some token := fun token =>
    (Builder.resolve_eq_ok hparts).trans Mode.resolve_context_eq_ok
  have hname : ∀ field name, fieldName? b mode.setting mode.entity field = .ok (some name) ↔
      field = .field (.text entity) name := by
    intro field name
    rw [fieldName?_eq hparts hentity, Except.ok.injEq, Value.nameOf?_eq_some]
  have hwritten := Builder.operatorEntry_eq (b := b) (by rw [hparts]) mode.context mode.operatorKey
  constructor
  · rintro ⟨d, htoken, hfield, hterms, htakes, -⟩
    cases (hname _ _).1 hfield
    cases htakes with
    | none asks => exact .presence ((hresolve _).1 htoken) asks hterms
    | some hnormal htakes =>
        rw [Value.size?_normal hnormal] at htakes
        have hnormalizable := (Value.exists_normal _).1 ⟨_, hnormal⟩
        exact .valued ((hresolve _).1 htoken) hterms hnormalizable htakes
  · intro h
    cases h with
    | presence resolves asks operands =>
        exact ⟨_, .intro ((hresolve _).2 resolves) ((hname _ _).2 rfl) operands (.none asks)
          (hwritten _)⟩
    | valued resolves operands normal takes =>
        obtain ⟨value, hvalue⟩ := (Value.exists_normal _).2 normal
        rw [← Value.size?_normal hvalue] at takes
        exact ⟨_, .intro ((hresolve _).2 resolves) ((hname _ _).2 rfl) operands
          (.some hvalue takes) (hwritten _)⟩

/-! ## Groups -/

theorem hasBlock_of_relation (hparts : b.standIns = {})
    (hentity : mode.entity b.settings = .text entity) {x : Value} {d : Dict}
    (h : b.relation (b.leaf .standard mode) x = .ok d) : HasBlock mode entity x := by
  refine relation_induction (fun x _ => HasBlock mode entity x)
    (fun kind terms negated token parts hresolve hterms => ?_) x d h
  rw [Builder.resolve_eq_ok hparts] at hresolve
  obtain ⟨rfl, j, hj, -⟩ := Context.resolve_relation_eq_ok.1 hresolve
  refine .group hj fun term hterm => ?_
  obtain ⟨part, hpart⟩ := exists_forall₂_iff.1 ⟨parts, hterms⟩ term hterm
  cases hpart with
  | group hkind hpart => exact .group hkind hpart
  | comparison hkind hpart =>
      exact .comparison hkind ((buildsClause_iff hparts hentity).1 ⟨part, (leaf_eq_ok.1 hpart).2⟩)

mutual

theorem HasBlock.builds (hparts : b.standIns = {})
    (hentity : mode.entity b.settings = .text entity) (x : Value) (h : HasBlock mode entity x) :
    ∃ d, b.relation (b.leaf .standard mode) x = .ok d := by
  match x, h with
  | .expr kind terms false, .group hkind hterms =>
      have hresolve := (Builder.resolve_eq_ok hparts).2
        (Context.resolve_relation_eq_ok.2 ⟨rfl, _, hkind, rfl⟩)
      obtain ⟨parts, hbuilt⟩ := exists_forall₂_iff.2 fun term hterm =>
        HasPart.builds hparts hentity term (hterms term hterm)
      exact ⟨_, relation_expr_eq_ok.2 ⟨_, parts, hresolve, relationTerms_eq_ok.2 hbuilt, rfl⟩⟩
termination_by (sizeOf x, 0)

theorem HasPart.builds (hparts : b.standIns = {})
    (hentity : mode.entity b.settings = .text entity) (x : Value) (h : HasPart mode entity x) :
    ∃ part, IsPartOf (fun x d => b.relation (b.leaf .standard mode) x = .ok d)
      (b.leaf .standard mode) x part := by
  match x, h with
  | .expr kind terms negated, .group hkind h =>
      obtain ⟨part, hpart⟩ := HasBlock.builds hparts hentity (.expr kind terms negated) h
      exact ⟨part, .group hkind hpart⟩
  | .expr kind terms negated, .comparison hkind h =>
      obtain ⟨part, hpart⟩ := (buildsClause_iff hparts hentity).2 h
      exact ⟨part, .comparison hkind (leaf_eq_ok.2 ⟨hkind, hpart⟩)⟩
termination_by (sizeOf x, 1)

end

/-- With parts of its own and a text for the entity, a builder makes a block of exactly the trees
that have one. -/
theorem standardRelation_builds_exactly (b : Builder) (mode : Mode) (entity : String) (x : Value)
    (hparts : b.standIns = {}) (hentity : mode.entity b.settings = .text entity) :
    (∃ d, b.standardRelation mode x = .ok d) ↔ HasBlock mode entity x :=
  ⟨fun ⟨_, hd⟩ => hasBlock_of_relation hparts hentity hd, HasBlock.builds hparts hentity x⟩

/-- Not between one and two, in a group of its own, or just there: such a tree has a block, and
between three values there is nothing. -/
theorem standardRelation_builds_exactly_of_range :
    let between (values : List Value) (negated : Bool) := Value.expr (.comparison .between)
      [.literal (.tuple values), .field (.text "meta") (.text "price")] negated
    let outside := between [.int 1, .int 2] true
    let there := Value.expr (.comparison .present) [.field (.text "meta") (.text "sku")] false
    let x := Value.expr (.junction .or) [.expr (.junction .and) [outside] false, there] false
    let y := Value.expr (.junction .and) [between [.int 1, .int 2, .int 3] false] false
    let b : Builder := {}
    (∃ d, b.standardRelation .postMeta x = .ok d) ∧
      ¬ ∃ d, b.standardRelation .postMeta y = .ok d := by
  intro between outside there x y b
  have hrange : HasPart .postMeta "meta" outside :=
    .comparison (Value.isJunctionKind_comparison _) (.valued rfl (.after _) rfl rfl)
  have hthere : HasPart .postMeta "meta" there :=
    .comparison (Value.isJunctionKind_comparison _) (.presence rfl rfl .alone)
  have hgroup : HasBlock .postMeta "meta" (.expr (.junction .and) [outside] false) :=
    .group (Value.junction?_junction .and) (by simpa using hrange)
  have hx : HasBlock .postMeta "meta" x :=
    .group (Value.junction?_junction .or)
      (by simpa using ⟨.group (Value.isJunctionKind_junction _) hgroup, hthere⟩)
  have hy : ¬ HasBlock .postMeta "meta" y := by
    show ¬ HasBlock .postMeta "meta" (.expr (.junction .and) [_] false)
    rintro ⟨-, hterms⟩
    cases hterms _ (List.mem_singleton_self _) with
    | group hkind _ => cases (Value.isJunctionKind_comparison .between).symm.trans hkind
    | comparison _ hlegal =>
        cases hlegal with
        | presence _ _ operands => cases operands
        | valued resolves operands _ takes =>
            cases resolves
            cases operands
            cases takes
  exact ⟨(standardRelation_builds_exactly b .postMeta "meta" x rfl rfl).2 hx,
    fun hd => hy ((standardRelation_builds_exactly b .postMeta "meta" y rfl rfl).1 hd)⟩

end PostQuery
