import PostQuery.Proofs.Arguments.Plain
import PostQuery.Proofs.Relation.Answers
import PostQuery.Proofs.Tree.Leaves

/-!
# The order of the strategies

A term of the root is tried with one strategy after the other, and the first success decides. For
most terms there is at most one success to find, so that the order decides nothing: what has an
operator of a plain comparison has no relation, and a comparison that makes a clause in one mode is
about the entity of that mode and no other. What is left are groups with no comparison in them,
which are blocks of either mode.

A break ends the trial wherever it stands in the order, which would tell two orders apart just as
well. It does not come to that: where a plain comparison breaks, no strategy succeeds.
-/

namespace PostQuery

/-- The value is a group: a node whose kind the context of relations knows, however deep the member
of an enumeration is nested. -/
def Value.isGroup : Value → Bool
  | .expr kind _ _ => kind.junction?.isSome
  | _ => false

/-- The comparisons anywhere below a node. -/
def Value.comparisonsBelow : Value → List Leaf
  | .expr _ terms _ => leavesOfAll terms 0
  | _ => []

variable {b : Builder}

/-! ## Two modes -/

theorem AreOperands.field_eq {f f' : Value} {terms : List Value} {l l' : Option Value}
    (h : AreOperands f terms l) (h' : AreOperands f' terms l') (hf : f.literal? = none)
    (hf' : f'.literal? = none) : f = f' := by
  cases h <;> cases h' <;> simp_all

theorem IsLegal.exists_operands {mode : Mode} {entity : String} {kind : Value}
    {terms : List Value} {negated : Bool} (h : IsLegal mode entity kind terms negated) :
    ∃ name literal, AreOperands (.field (.text entity) name) terms literal := by
  cases h with
  | presence _ _ operands => exact ⟨_, _, operands⟩
  | valued _ operands _ _ => exact ⟨_, _, operands⟩

/-- A comparison is about a field of one entity. -/
theorem IsLegal.entity_eq {mode mode' : Mode} {entity entity' : String} {kind : Value}
    {terms : List Value} {negated : Bool} (h : IsLegal mode entity kind terms negated)
    (h' : IsLegal mode' entity' kind terms negated) : entity = entity' := by
  obtain ⟨name, literal, hterms⟩ := h.exists_operands
  obtain ⟨name', literal', hterms'⟩ := h'.exists_operands
  have hfield := hterms.field_eq hterms' rfl rfl
  simp_all

section

variable {mode mode' : Mode} {entity entity' : String}

mutual

theorem HasBlock.comparisonsBelow_eq_nil (hne : entity ≠ entity') (x : Value)
    (h : HasBlock mode entity x) (h' : HasBlock mode' entity' x) :
    x.comparisonsBelow = [] := by
  match x, h with
  | .expr kind terms false, .group _ hterms =>
      cases h' with
      | group _ hterms' =>
          refine leavesOfAll_eq_nil.2 fun term hterm => ?_
          exact HasPart.leaves_eq_nil hne term (hterms term hterm) (hterms' term hterm)
termination_by (sizeOf x, 0)

theorem HasPart.leaves_eq_nil (hne : entity ≠ entity') (x : Value)
    (h : HasPart mode entity x) (h' : HasPart mode' entity' x) : leaves x 0 = [] := by
  match x, h with
  | .expr kind terms negated, .group hkind hblock =>
      cases h' with
      | group _ hblock' =>
          have hbelow := HasBlock.comparisonsBelow_eq_nil hne _ hblock hblock'
          cases hblock with
          | group _ _ => rwa [leaves, if_pos hkind]
      | comparison hkind' _ =>
          rw [hkind] at hkind'
          cases hkind'
  | .expr kind terms negated, .comparison hkind hlegal =>
      cases h' with
      | group hkind' _ =>
          rw [hkind] at hkind'
          cases hkind'
      | comparison _ hlegal' => exact absurd (hlegal.entity_eq hlegal') hne
termination_by (sizeOf x, 1)

end

end

/-- The entities of settings that pass their checks differ. -/
theorem entities_ne {s : Settings} {em et : String} (hchecked : s.checked = .ok s)
    (hmeta : s.metaEntity = .text em) (htaxonomy : s.taxonomyEntity = .text et) : em ≠ et := by
  rintro rfl
  rw [Settings.checked, hmeta, htaxonomy, Value.equal_text, Value.isText, BEq.rfl] at hchecked
  split at hchecked
  · cases hchecked
  · split at hchecked <;> cases hchecked

namespace Builder

variable {x : Value} {d d' : Dict}

/-! ## A plain comparison and a group -/

theorem exists_relation_of_attempt {s : Strategy} (hs : s ≠ .compare)
    (h : s.attempt b x = .ok d) : ∃ mode block, b.standardRelation mode x = .ok block := by
  cases s with
  | compare => exact absurd rfl hs
  | metaQuery =>
      obtain ⟨block, hblock, -⟩ := map_eq_ok.1 h
      exact ⟨.postMeta, block, hblock⟩
  | taxonomyQuery =>
      obtain ⟨block, hblock, -⟩ := map_eq_ok.1 h
      exact ⟨.taxonomy, block, hblock⟩

/-- What has an operator of a plain comparison makes no block. -/
theorem attempt_ne_ok_of_resolve {kind : Value} {terms : List Value} {negated : Bool}
    {token : Token} (h : b.resolve .compare kind negated = .ok token) {s : Strategy}
    (hs : s ≠ .compare) : s.attempt b (.expr kind terms negated) ≠ .ok d := by
  intro hd
  obtain ⟨f, hf⟩ := resolve_relation_of_compare h
  obtain ⟨mode, block, hblock⟩ := exists_relation_of_attempt hs hd
  obtain ⟨relation, -, hrelation, -⟩ := relation_expr_eq_ok.1 hblock
  rw [hf] at hrelation
  cases hrelation

theorem attempt_ne_ok_of_compare (h : Strategy.compare.attempt b x = .ok d) {s : Strategy}
    (hs : s ≠ .compare) : s.attempt b x ≠ .ok d' := by
  rw [Strategy.attempt] at h
  cases x with
  | expr kind terms negated =>
      obtain ⟨token, -, -, -, htoken, -⟩ := compareClause_eq_ok h
      exact attempt_ne_ok_of_resolve htoken hs
  | _ => exact absurd h refuseWith_ne_ok

/-- A plain comparison only breaks after its operator was found, at a key that cannot be one. -/
theorem resolves_of_broken {m : Misuse} (hparts : b.standIns = {})
    (h : Strategy.compare.attempt b x = .error (.broken m)) :
    ∃ kind terms negated token, x = .expr kind terms negated ∧
      b.resolve .compare kind negated = .ok token := by
  have hcatalog : b.standIns.catalog = none := by
    rw [hparts]
  rw [Strategy.attempt] at h
  cases x with
  | expr kind terms negated =>
      cases hresolve : b.resolve .compare kind negated with
      | ok token => exact ⟨kind, terms, negated, token, rfl, hresolve⟩
      | error o =>
          cases o with
          | broken m' => exact absurd hresolve (answers_resolve hparts _ _ _ m')
          | refused f =>
              have hrefused : b.compareParts kind terms negated = .error (.refused f) := by
                rw [compareParts, hresolve]
                rfl
              rw [compare_expr, hrefused] at h
              split at h
              · exact absurd h (answers_refuseWith hcatalog _ _ _ _ m)
              · rw [within, refuseFor, refuseWith, hcatalog] at h
                cases h
  | _ => exact absurd h (answers_refuseWith hcatalog _ _ _ _ m)

/-! ## At most one success -/

section

variable {em et : String} (hparts : b.standIns = {}) (hne : em ≠ et)
  (hmeta : Mode.postMeta.entity b.settings = .text em)
  (htaxonomy : Mode.taxonomy.entity b.settings = .text et)

include hparts hne hmeta htaxonomy

theorem comparisonsBelow_eq_nil_of_both (h : Strategy.metaQuery.attempt b x = .ok d)
    (h' : Strategy.taxonomyQuery.attempt b x = .ok d') :
    x.isGroup = true ∧ x.comparisonsBelow = [] := by
  obtain ⟨block, hblock, -⟩ := map_eq_ok.1 h
  obtain ⟨block', hblock', -⟩ := map_eq_ok.1 h'
  have hhas : HasBlock .postMeta em x := hasBlock_of_relation hparts hmeta hblock
  have hhas' : HasBlock .taxonomy et x := hasBlock_of_relation hparts htaxonomy hblock'
  refine ⟨?_, hhas.comparisonsBelow_eq_nil hne x hhas'⟩
  cases hhas with
  | group hkind _ => rw [Value.isGroup, hkind, Option.isSome_some]

/-- A term that is no group without comparisons is built by one strategy at most. -/
theorem strategy_unique (hx : x.isGroup = true → x.comparisonsBelow ≠ []) {s s' : Strategy}
    (h : s.attempt b x = .ok d) (h' : s'.attempt b x = .ok d') : s = s' := by
  have hboth : ∀ d d', Strategy.metaQuery.attempt b x = .ok d →
      Strategy.taxonomyQuery.attempt b x ≠ .ok d' := by
    intro d d' hd hd'
    obtain ⟨hgroup, hnone⟩ := comparisonsBelow_eq_nil_of_both hparts hne hmeta htaxonomy hd hd'
    exact hx hgroup hnone
  cases s with
  | compare =>
      by_contra hother
      exact attempt_ne_ok_of_compare h (Ne.symm hother) h'
  | metaQuery =>
      cases s' with
      | compare => exact absurd h (attempt_ne_ok_of_compare h' (by decide))
      | metaQuery => rfl
      | taxonomyQuery => exact absurd h' (hboth _ _ h)
  | taxonomyQuery =>
      cases s' with
      | compare => exact absurd h (attempt_ne_ok_of_compare h' (by decide))
      | metaQuery => exact absurd h (hboth _ _ h')
      | taxonomyQuery => rfl

omit hne in
/-- Where some strategy succeeds, none breaks. -/
theorem attempt_ne_broken {s s' : Strategy} (h : s.attempt b x = .ok d) (m : Misuse) :
    s'.attempt b x ≠ .error (.broken m) := by
  have hrelation : Answers (b.standardRelation .postMeta x) :=
    answers_standardRelation hparts hmeta x
  have hrelation' : Answers (b.standardRelation .taxonomy x) :=
    answers_standardRelation hparts htaxonomy x
  cases s' with
  | metaQuery => exact hrelation.map _ m
  | taxonomyQuery => exact hrelation'.map _ m
  | compare =>
      intro hbroken
      obtain ⟨kind, terms, negated, token, rfl, htoken⟩ := resolves_of_broken hparts hbroken
      by_cases hs : s = .compare
      · subst hs
        rw [hbroken] at h
        cases h
      · exact attempt_ne_ok_of_resolve htoken hs h

end

/-! ## Two orders -/

/-- The first success is that of some strategy. -/
theorem exists_attempt_of_firstSuccess {ss : List Strategy} {failures : List Failure}
    (h : b.firstSuccess x ss failures = .ok d) : ∃ s ∈ ss, s.attempt b x = .ok d := by
  induction ss generalizing failures with
  | nil => exact absurd h refuseWith_ne_ok
  | cons s rest ih =>
      rw [firstSuccess] at h
      split at h
      · next hs =>
          cases h
          exact ⟨s, List.mem_cons_self, hs⟩
      · obtain ⟨s', hs', hd⟩ := ih h
        exact ⟨s', List.mem_cons_of_mem s hs', hd⟩
      · cases h

/-- Where no two strategies succeed and none breaks beside a success, the first success is the only
one there is. -/
theorem firstSuccess_eq_ok
    (hunique : ∀ {s s' : Strategy} {d d' : Dict}, s.attempt b x = .ok d → s'.attempt b x = .ok d' →
      s = s')
    (hunbroken : ∀ {s s' : Strategy} {d : Dict}, s.attempt b x = .ok d →
      ∀ m, s'.attempt b x ≠ .error (.broken m))
    (ss : List Strategy) (failures : List Failure) :
    b.firstSuccess x ss failures = .ok d ↔ ∃ s ∈ ss, s.attempt b x = .ok d := by
  refine ⟨exists_attempt_of_firstSuccess, ?_⟩
  rintro ⟨s, hs, hd⟩
  induction ss generalizing failures with
  | nil => cases hs
  | cons s' rest ih =>
      cases hs' : s'.attempt b x with
      | ok found =>
          rw [firstSuccess, hs']
          cases hunique hd hs'
          rw [← hs', hd]
      | error o =>
          cases o with
          | refused f =>
              rw [firstSuccess_of_refused hs']
              obtain rfl | hs := List.mem_cons.1 hs
              · rw [hd] at hs'
                cases hs'
              · exact ih _ hs
          | broken m => exact absurd hs' (hunbroken hd m)

theorem rootTerms_congr {ss ss' : List Strategy} {terms terms' : List Value}
    (h : List.Forall₂ (fun x y => ∀ d, b.rootTerm ss x = .ok d ↔ b.rootTerm ss' y = .ok d)
      terms terms') (made : Dict) :
    b.rootTerms ss terms made = .ok d ↔ b.rootTerms ss' terms' made = .ok d := by
  induction h generalizing made with
  | nil => exact Iff.rfl
  | cons hterm _ ih =>
      rw [rootTerms, rootTerms, bind_eq_ok, bind_eq_ok]
      simp only [hterm, ih]

theorem rootTerm_of_metaQuery {block : Dict} (h : b.standardRelation .postMeta x = .ok block) :
    b.rootTerm Strategy.standard x = .ok [(.text "meta_query", .dict block)] := by
  have hattempt : Strategy.metaQuery.attempt b x = .ok [(.text "meta_query", .dict block)] := by
    rw [Strategy.attempt, h]
    rfl
  cases x with
  | expr kind terms negated =>
      change b.firstSuccess _ Strategy.standard [] = _
      rw [Strategy.standard, firstSuccess, hattempt]
  | _ => exact absurd h refuseWith_ne_ok

/-- The strategies exclude one another: a term that makes a plain comparison makes no block, and
only groups with no comparison below them make one in either mode. So for a root with no such group,
which strategies there are is all that matters and not in which order: two lists of the same
strategies make the same arguments, or neither makes any. -/
theorem strategies_exclude (b : Builder) (em et : String) (hparts : b.standIns = {})
    (hchecked : b.settings.checked = .ok b.settings) (hmeta : b.settings.metaEntity = .text em)
    (htaxonomy : b.settings.taxonomyEntity = .text et) :
    (∀ (x : Value) (d d' : Dict) (s : Strategy),
      Strategy.compare.attempt b x = .ok d → s ≠ .compare → s.attempt b x ≠ .ok d') ∧
    (∀ (x : Value) (d d' : Dict), Strategy.metaQuery.attempt b x = .ok d →
      Strategy.taxonomyQuery.attempt b x = .ok d' → x.comparisonsBelow = []) ∧
    ∀ (ss ss' : List Strategy) (kind : Value) (terms : List Value) (negated : Bool),
      (∀ s, s ∈ ss ↔ s ∈ ss') →
      (∀ x ∈ terms, x.isGroup = true → x.comparisonsBelow ≠ []) →
      ∀ d, b.arguments ss (.expr kind terms negated) = .ok d ↔
        b.arguments ss' (.expr kind terms negated) = .ok d := by
  have hne := entities_ne hchecked hmeta htaxonomy
  refine ⟨fun x d d' s h hs => attempt_ne_ok_of_compare h hs, fun x d d' h h' => ?_, ?_⟩
  · exact (comparisonsBelow_eq_nil_of_both hparts hne hmeta htaxonomy h h').2
  · intro ss ss' kind terms negated hsame hterms d
    have hterm : ∀ x ∈ terms, ∀ d, b.rootTerm ss x = .ok d ↔ b.rootTerm ss' x = .ok d := by
      intro x hx d
      have hfirst := firstSuccess_eq_ok (d := d)
        (strategy_unique hparts hne hmeta htaxonomy (hterms x hx))
        (attempt_ne_broken hparts hmeta htaxonomy)
      rw [rootTerm, rootTerm]
      split
      · simp only [hfirst, hsame]
      · simp [refuse, refuseWith_ne_ok]
    rw [arguments, arguments]
    split
    · exact rootTerms_congr (List.forall₂_same.2 hterm) []
    · simp [refuse, refuseWith_ne_ok]

/-- A group of one and a plain comparison make the same arguments if the plain comparison is tried
first, and once more. -/
theorem strategies_exclude_of_reversed :
    let above := Value.expr (.comparison .greater)
      [.field (.text "meta") (.text "price"), .literal (.int 5)] false
    let price := Value.expr (.junction .and) [above] false
    let author := Value.expr (.comparison .equal)
      [.variable (.text "author"), .literal (.int 7)] false
    let x := Value.expr (.junction .and) [price, author] false
    let b : Builder := {}
    ∃ d, b.arguments Strategy.standard x = .ok d ∧
      b.arguments [.compare, .taxonomyQuery, .compare, .metaQuery] x = .ok d := by
  intro above price author x b
  let clause : Dict := [(.text "key", .text "price"), (.text "value", .int 5),
    (.text "type", .text "NUMERIC"), (.text "compare", .text ">")]
  have hclause : b.leaf .standard .postMeta above = .ok clause := by
    refine leaf_eq_ok.2 ⟨Value.isJunctionKind_comparison _, metaClause_eq_ok.1 ?_⟩
    cbv
  have hprice : b.rootTerm Strategy.standard price
      = .ok [(.text "meta_query", .dict (block .and [clause]))] :=
    rootTerm_of_metaQuery (relation_expr_eq_ok.2 ⟨_, _, rfl, relationTerms_eq_ok.2
      (.cons (.comparison (Value.isJunctionKind_comparison _) hclause) .nil), rfl⟩)
  have hauthor : ∃ d, b.rootTerm Strategy.standard author = .ok d := by
    have hmakes : b.Makes author ⟨"author", .int 7, .equal⟩ := makes_of_resolve rfl rfl
    obtain hok | ⟨hcatalog, -⟩ := rootTerm_of_makes hmakes
    · exact ⟨_, hok⟩
    · exact absurd rfl hcatalog
  obtain ⟨entries, hentries⟩ := hauthor
  have hbuilt : ∃ d, b.arguments Strategy.standard x = .ok d := by
    change ∃ d, b.rootTerms Strategy.standard [price, author] [] = .ok d
    simp only [rootTerms, hprice, hentries]
    exact ⟨_, rfl⟩
  have hsame : ∀ s, s ∈ Strategy.standard ↔
      s ∈ [Strategy.compare, .taxonomyQuery, .compare, .metaQuery] := by
    intro s
    cases s <;> decide
  have hterms : ∀ y ∈ [price, author], y.isGroup = true → y.comparisonsBelow ≠ [] := by
    intro y hy hgroup
    obtain rfl | rfl := List.mem_pair.1 hy
    · simp [price, above, Value.comparisonsBelow, leavesOfAll, leaves,
        Value.isJunctionKind_comparison]
    · cases hgroup
  have hchecked : b.settings.checked = .ok b.settings := by
    cbv
  obtain ⟨d, hd⟩ := hbuilt
  have hiff := (strategies_exclude b "meta" "tax" rfl hchecked rfl rfl).2.2 Strategy.standard
    [.compare, .taxonomyQuery, .compare, .metaQuery] (.junction .and) _ false hsame hterms d
  exact ⟨d, hd, hiff.1 hd⟩

end Builder

end PostQuery
