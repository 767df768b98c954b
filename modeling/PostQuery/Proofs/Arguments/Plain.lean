import PostQuery.Arguments
import PostQuery.Proofs.Relation.Meaning
import PostQuery.Proofs.Value.Normal

/-!
# What plain comparisons leave behind

Every plain comparison has a key of its own for its value, and all of them share one for their
operators. So the arguments remember each value and only the last operator that was written. An
earlier operator can still be told from the shape of its value: one that takes a list makes a list
of it.

`arguments_same_iff` says that nothing else is lost and nothing else is kept. It is a statement
about two runs of the same loop, and it comes down to one about a single run, `get?_run`: what is
found under each key after all terms have been put in.
-/

namespace PostQuery

/-- A plain comparison: the key of its variable, its literal and its operator. -/
structure Plain where
  key : String
  literal : Value
  token : Token

namespace Plain

/-- All of a comparison but its operator. -/
def operands (p : Plain) : String × Value := (p.key, p.literal)

/-- The value that a comparison puts under its key. -/
def value (p : Plain) : Value :=
  match p.literal.normal with
  | .ok w => if p.token.takesList then .list w.asList else w
  | .error v => v

end Plain

namespace Builder

variable {b : Builder}

/-- The tree builds as a plain comparison, and as which one. -/
structure Makes (b : Builder) (x : Value) (p : Plain) : Prop where
  resolves : ∃ kind terms negated, x = .expr kind terms negated ∧
    b.resolve .compare kind negated = .ok p.token ∧
    terms.findSome? Value.variableName? = some (.text p.key) ∧
    terms.findSome? Value.literal? = some p.literal
  builds : ∃ d, b.clause .compare x = .ok d

/-- The entries of a plain comparison. -/
def entries (b : Builder) (p : Plain) : Dict :=
  Dict.update [(.text p.key, p.value)] (b.written .compare "compare" p.token)

theorem Makes.clause {x : Value} {p : Plain} (h : b.Makes x p) :
    b.clause .compare x = .ok (b.entries p) := by
  obtain ⟨⟨kind, terms, negated, rfl, htoken, hkey, hliteral⟩, d, hd⟩ := h
  obtain ⟨token, key, raw, value, htoken', hkey', hliteral', hvalue, rfl⟩ :=
    compareClause_eq_ok hd
  rw [htoken] at htoken'
  rw [hkey] at hkey'
  rw [hliteral] at hliteral'
  cases htoken'
  cases hkey'
  cases hliteral'
  rw [hd, entries, Plain.value, hvalue]

theorem Makes.normal {x : Value} {p : Plain} (h : b.Makes x p) :
    ∃ w, p.literal.normal = .ok w := by
  obtain ⟨⟨kind, terms, negated, rfl, -, -, hliteral⟩, d, hd⟩ := h
  obtain ⟨-, -, raw, value, -, -, hliteral', hvalue, -⟩ := compareClause_eq_ok hd
  rw [hliteral] at hliteral'
  cases hliteral'
  exact ⟨value, hvalue⟩

/-- A variable compared with a number makes a plain comparison, whatever the operator. -/
theorem makes_of_resolve {c : Comparison} {key : String} {n : Int} {negated : Bool} {token : Token}
    (hsettings : b.standIns.settings = none)
    (h : b.resolve .compare (.comparison c) negated = .ok token) :
    b.Makes (.expr (.comparison c) [.variable (.text key), .literal (.int n)] negated)
      ⟨key, .int n, token⟩ := by
  have hnormal : normalValue (.int n) = .ok (.int n) := by
    rw [normalValue, Value.normal.eq_def]
    rfl
  have hparts : b.compareParts (.comparison c) [.variable (.text key), .literal (.int n)] negated
      = .ok (.text key, if token.takesList then .list (Value.int n).asList else .int n, token) := by
    rw [compareParts, bind_eq_ok]
    refine ⟨token, h, ?_⟩
    rw [bind_eq_ok]
    refine ⟨(.text key, some (.int n)), rfl, ?_⟩
    simp only [Option.getD_some, hnormal]
    rfl
  have hoperator := operatorEntry_eq hsettings .compare "compare" token
  have hentries : ∀ value, ∃ d, b.compareEntries (.text key) value token = .ok d :=
    fun value => ⟨_, bind_eq_ok.2 ⟨.text key, rfl, bind_eq_ok.2 ⟨_, hoperator, rfl⟩⟩⟩
  refine ⟨⟨_, _, _, rfl, h, rfl, rfl⟩, ?_⟩
  rw [clause.eq_def]
  simp only [Value.isJunctionKind_comparison]
  rw [if_neg Bool.false_ne_true, hparts]
  exact hentries _

/-! ## The strategy that succeeds -/

theorem refuseWith_eq_error {α : Type} (b : Builder) (c : Complaint) (x : Value)
    (cause : Option Failure) (causes : List Failure) :
    ∃ o, (b.refuseWith c x cause causes : Attempt α) = .error o ∧
      (b.standIns.catalog = none → ∃ f, o = .refused f) := by
  rw [refuseWith]
  split
  · exact ⟨_, rfl, fun _ => ⟨_, rfl⟩⟩
  · next v hv =>
      refine ⟨_, rfl, fun hnone => ?_⟩
      rw [hnone] at hv
      cases hv

/-- A comparison is no junction. -/
theorem resolve_relation_of_compare {kind : Value} {negated : Bool} {token : Token}
    (h : b.resolve .compare kind negated = .ok token) :
    ∃ f, b.resolve .relation kind negated = .error (.refused f) := by
  obtain ⟨k, pair, hk, hpair, -⟩ := Context.resolve_eq_ok.1 (context_resolve_of_resolve h)
  obtain ⟨c, hc, -⟩ := Option.bind_eq_some_iff.1 hpair
  have hnone : Context.relation.pair? k = none := by
    rw [Context.pair?, Junction.ofText?_eq_none hc]
    rfl
  rw [resolve] at h ⊢
  split at h
  · cases h
  · cases h
  · rw [Context.resolve, hk]
    simp only [hnone]
    exact ⟨_, rfl⟩

/-- So it is no group of its own either, in whichever mode it is tried. -/
theorem attempt_group_eq_error {x : Value} {p : Plain} (h : b.Makes x p) (s : Strategy)
    (hs : s ≠ .compare) :
    ∃ o, s.attempt b x = .error o ∧ (b.standIns.catalog = none → ∃ f, o = .refused f) := by
  obtain ⟨⟨kind, terms, negated, rfl, htoken, -, -⟩, -⟩ := h
  obtain ⟨f, hf⟩ := resolve_relation_of_compare htoken
  obtain ⟨o, ho, hrefused⟩ : ∃ o,
      (b.refuseFor .relation (.expr kind terms negated) f : Attempt Dict) = .error o ∧
        (b.standIns.catalog = none → ∃ f, o = .refused f) := refuseWith_eq_error ..
  have hrelation : ∀ leaf, b.relation leaf (.expr kind terms negated) = .error o := by
    intro leaf
    rw [relation.eq_def]
    simp only [hf]
    exact ho
  refine ⟨o, ?_, hrefused⟩
  cases s with
  | compare => exact absurd rfl hs
  | metaQuery => rw [Strategy.attempt, standardRelation, hrelation]; rfl
  | taxonomyQuery => rw [Strategy.attempt, standardRelation, hrelation]; rfl

theorem firstSuccess_of_refused {x : Value} {s : Strategy} {f : Failure}
    (h : s.attempt b x = .error (.refused f)) (rest : List Strategy) (failures : List Failure) :
    b.firstSuccess x (s :: rest) failures = b.firstSuccess x rest (failures ++ [f]) := by
  rw [firstSuccess, h]

theorem firstSuccess_of_broken {x : Value} {s : Strategy} {m : Misuse}
    (h : s.attempt b x = .error (.broken m)) (rest : List Strategy) (failures : List Failure) :
    b.firstSuccess x (s :: rest) failures = .error (.broken m) := by
  rw [firstSuccess, h]

/-- A plain comparison makes its own entries, or nothing at all if the refusals before it cannot be
put into words. -/
theorem rootTerm_of_makes {x : Value} {p : Plain} (h : b.Makes x p) :
    b.rootTerm Strategy.standard x = .ok (b.entries p) ∨
      b.standIns.catalog ≠ none ∧ ∃ o, b.rootTerm Strategy.standard x = .error o := by
  have hexpr : b.rootTerm Strategy.standard x = b.firstSuccess x Strategy.standard [] := by
    obtain ⟨⟨kind, terms, negated, rfl, -⟩, -⟩ := h
    rfl
  obtain ⟨o, ho, hrefused⟩ := attempt_group_eq_error h .metaQuery (by decide)
  obtain ⟨o', ho', hrefused'⟩ := attempt_group_eq_error h .taxonomyQuery (by decide)
  rw [hexpr, Strategy.standard]
  cases o with
  | broken m =>
      rw [firstSuccess_of_broken ho]
      refine .inr ⟨fun hnone => ?_, _, rfl⟩
      obtain ⟨f, hf⟩ := hrefused hnone
      cases hf
  | refused f =>
      rw [firstSuccess_of_refused ho]
      cases o' with
      | broken m =>
          rw [firstSuccess_of_broken ho']
          refine .inr ⟨fun hnone => ?_, _, rfl⟩
          obtain ⟨f', hf'⟩ := hrefused' hnone
          cases hf'
      | refused f' =>
          rw [firstSuccess_of_refused ho', firstSuccess, Strategy.attempt, h.clause]
          exact .inl rfl

/-! ## Putting the terms in -/

/-- What one term does to the arguments. -/
def step (b : Builder) (d : Dict) (p : Plain) : Dict := d.update (b.entries p)

/-- What the terms of a root make, from what there is already. -/
def run (b : Builder) (ps : List Plain) (d : Dict) : Dict := ps.foldl b.step d

theorem rootTerms_of_makes {xs : List Value} {ps : List Plain}
    (h : List.Forall₂ b.Makes xs ps) (d : Dict) :
    b.rootTerms Strategy.standard xs d = .ok (b.run ps d) ∨
      b.standIns.catalog ≠ none ∧ ∃ o, b.rootTerms Strategy.standard xs d = .error o := by
  induction h generalizing d with
  | nil => exact .inl rfl
  | cons hx _ ih =>
      rw [rootTerms]
      obtain hok | ⟨hcatalog, o, ho⟩ := rootTerm_of_makes hx
      · rw [hok]
        exact ih _
      · rw [ho]
        exact .inr ⟨hcatalog, o, rfl⟩

theorem arguments_of_makes {kind : Value} {negated : Bool} {xs : List Value} {ps : List Plain}
    (hroot : (Value.expr kind xs negated).isRoot = true) (h : List.Forall₂ b.Makes xs ps) :
    b.arguments Strategy.standard (.expr kind xs negated) = .ok (b.run ps []) ∨
      b.standIns.catalog ≠ none ∧
        ∃ o, b.arguments Strategy.standard (.expr kind xs negated) = .error o := by
  rw [arguments.eq_def, if_pos hroot]
  exact rootTerms_of_makes h []

theorem eq_run_of_arguments_eq_ok {kind : Value} {negated : Bool} {xs : List Value}
    {ps : List Plain} {d : Dict} (hroot : (Value.expr kind xs negated).isRoot = true)
    (h : List.Forall₂ b.Makes xs ps)
    (hd : b.arguments Strategy.standard (.expr kind xs negated) = .ok d) : d = b.run ps [] := by
  obtain hok | ⟨-, o, ho⟩ := arguments_of_makes hroot h
  · rw [hok] at hd
    cases hd
    rfl
  · rw [ho] at hd
    cases hd

/-! ## What is found afterwards -/

/-- The last operator that is written out, if any is. -/
def lastWritten (b : Builder) (ps : List Plain) : Option Token :=
  ((ps.map Plain.token).filter (b.writes .compare)).getLast?

theorem lastWritten_cons (p : Plain) (ps : List Plain) :
    b.lastWritten (p :: ps)
      = (b.lastWritten ps).or (if b.writes .compare p.token then some p.token else none) := by
  rw [lastWritten, List.map_cons, List.filter_cons]
  cases hwrites : b.writes .compare p.token with
  | true =>
      rw [if_pos rfl, if_pos rfl, List.getLast?_cons, lastWritten]
      cases ((ps.map Plain.token).filter (b.writes .compare)).getLast? <;> rfl
  | false =>
      rw [if_neg Bool.false_ne_true, if_neg Bool.false_ne_true, Option.or_none, lastWritten]

/-- The values under the keys of their own. -/
def own (ps : List Plain) : Dict := ps.map fun p => (.text p.key, p.value)

theorem get?_step {p : Plain} (hkey : p.key ≠ "compare") (d : Dict) (q : Value) :
    (b.step d p).get? q =
      if (Value.text "compare").eqv q && b.writes .compare p.token then
        some (.text p.token.text)
      else if (Value.text p.key).eqv q then some p.value
      else d.get? q := by
  have hne : (p.key == "compare") = false := beq_eq_false_iff_ne.2 hkey
  rw [step, entries, written]
  cases hwrites : b.writes .compare p.token with
  | true =>
      rw [if_pos rfl, Dict.update_cons, Dict.update_nil, Dict.put, Value.eqv_text, hne,
        if_neg Bool.false_ne_true, Dict.put_nil, Dict.update_cons, Dict.update_cons,
        Dict.update_nil, Dict.get?_put_text, Dict.get?_put_text, Bool.and_true]
  | false =>
      rw [if_neg Bool.false_ne_true, Dict.update_nil, Dict.update_cons, Dict.update_nil,
        Dict.get?_put_text, Bool.and_false, if_neg Bool.false_ne_true]

theorem get?_own_eq_none {ps : List Plain} {key : String} (h : key ∉ ps.map Plain.key) :
    (own ps).get? (.text key) = none := by
  induction ps with
  | nil => rfl
  | cons p ps ih =>
      rw [List.map_cons, List.mem_cons, not_or] at h
      rw [own, List.map_cons, Dict.get?_cons_text, beq_eq_false_iff_ne.2 (Ne.symm h.1),
        if_neg Bool.false_ne_true]
      exact ih h.2

/-- Under each key of its own there is the value of that term, whatever the other terms are; under
the shared key there is the last operator that was written. -/
theorem get?_run {ps : List Plain} (hdistinct : (ps.map Plain.key).Nodup)
    (hcompare : "compare" ∉ ps.map Plain.key) (d : Dict) (q : Value) :
    (b.run ps d).get? q =
      if (Value.text "compare").eqv q then
        ((b.lastWritten ps).map fun t => Value.text t.text).or (d.get? q)
      else ((own ps).get? q).or (d.get? q) := by
  -- The first term is put in first, so what it leaves has to stand for any arguments `d`.
  induction ps generalizing d with
  | nil =>
      rw [run, List.foldl_nil, lastWritten, own, List.map_nil, List.filter_nil, List.map_nil]
      split <;> rfl
  | cons p ps ih =>
      rw [List.map_cons, List.nodup_cons] at hdistinct
      rw [List.map_cons, List.mem_cons, not_or] at hcompare
      have hkey : p.key ≠ "compare" := Ne.symm hcompare.1
      rw [run, List.foldl_cons]
      change (b.run ps (b.step d p)).get? q = _
      rw [ih hdistinct.2 hcompare.2, get?_step hkey, lastWritten_cons]
      cases hq : (Value.text "compare").eqv q with
      | true =>
          rw [if_pos rfl, if_pos rfl, Bool.true_and, Value.eq_of_text_eqv hq, Value.eqv_text,
            beq_eq_false_iff_ne.2 hkey, if_neg Bool.false_ne_true, Option.map_or, Option.or_assoc]
          congr 1
          split <;> rfl
      | false =>
          rw [if_neg Bool.false_ne_true, if_neg Bool.false_ne_true, Bool.false_and,
            if_neg Bool.false_ne_true, own, own, List.map_cons, Dict.get?_cons]
          cases hown : (Value.text p.key).eqv q with
          | true =>
              rw [Value.eq_of_text_eqv hown, if_pos rfl, if_pos rfl]
              have hnone := get?_own_eq_none hdistinct.1
              rw [own] at hnone
              rw [hnone]
              rfl
          | false => rw [if_neg Bool.false_ne_true, if_neg Bool.false_ne_true]

end Builder

/-! ## Two roots -/

theorem Token.text_injective : Function.Injective Token.text := by
  intro t u h
  cases t <;> cases u <;> first | rfl | (simp [Token.text] at h)

/-- A value in its normal form is a list exactly if it was a sequence. -/
theorem Value.normal_eq_list_iff {v w : Value} (h : v.normal = .ok w) :
    Value.list w.asList = w ↔ v.isSequence = true := by
  obtain ⟨items, ws, hitems, rfl, -, -⟩ | ⟨hnone, hstored⟩ := normal_cases h
  · rw [isSequence, hitems]
    exact ⟨fun _ => rfl, fun _ => rfl⟩
  · rw [isSequence, hnone, asList, sequence?_of_isStored hstored]
    constructor
    · intro hlist
      rw [← hlist] at hstored
      cases hstored
    · intro hsome
      cases hsome

namespace Plain

/-- The operators of two comparisons of the same value put it under its key in the same shape. -/
def SameShape (p q : Plain) : Prop :=
  p.token.takesList = q.token.takesList ∨ p.literal.isSequence = true

theorem value_eq_iff {p q : Plain} (hliteral : p.literal = q.literal) {w : Value}
    (hw : p.literal.normal = .ok w) : p.value = q.value ↔ p.SameShape q := by
  have hlist := Value.normal_eq_list_iff hw
  rw [value, value, ← hliteral, hw, SameShape, ← hlist]
  simp only []
  cases p.token.takesList <;> cases q.token.takesList <;> simp [eq_comm]

end Plain

namespace Builder

variable {b : Builder}

theorem own_eq_iff {ps qs : List Plain} (hsame : ps.map Plain.operands = qs.map Plain.operands)
    (hnormal : ∀ p ∈ ps, ∃ w, p.literal.normal = .ok w) :
    own ps = own qs ↔ List.Forall₂ Plain.SameShape ps qs := by
  induction ps generalizing qs with
  | nil =>
      cases qs with
      | nil => simp [own]
      | cons q qs => cases hsame
  | cons p ps ih =>
      cases qs with
      | nil => cases hsame
      | cons q qs =>
          rw [List.map_cons, List.map_cons, List.cons.injEq] at hsame
          obtain ⟨hhead, hrest⟩ := hsame
          rw [Plain.operands, Plain.operands, Prod.mk.injEq] at hhead
          obtain ⟨w, hw⟩ := hnormal p (List.mem_cons_self ..)
          have hvalue := Plain.value_eq_iff hhead.2 hw
          have hown := ih hrest fun p hp => hnormal p (List.mem_cons_of_mem _ hp)
          rw [own, own] at hown
          rw [own, own, List.map_cons, List.map_cons, List.cons.injEq, hown, Prod.mk.injEq,
            hhead.1, hvalue, List.forall₂_cons]
          simp only [true_and]

/-- What is under the keys of their own determines the list. -/
theorem own_eq_of_get? {ps qs : List Plain} (hkeys : ps.map Plain.key = qs.map Plain.key)
    (hdistinct : (ps.map Plain.key).Nodup)
    (h : ∀ key ∈ ps.map Plain.key, (own ps).get? (.text key) = (own qs).get? (.text key)) :
    own ps = own qs := by
  induction ps generalizing qs with
  | nil =>
      cases qs with
      | nil => rfl
      | cons q qs => cases hkeys
  | cons p ps ih =>
      cases qs with
      | nil => cases hkeys
      | cons q qs =>
          rw [List.map_cons, List.map_cons, List.cons.injEq] at hkeys
          rw [List.map_cons, List.nodup_cons] at hdistinct
          have hget : ∀ (p : Plain) ps key, (own (p :: ps)).get? (.text key)
              = if p.key == key then some p.value else (own ps).get? (.text key) := by
            intro p ps key
            rw [own, List.map_cons, Dict.get?_cons_text]
            rfl
          have hrest : own ps = own qs := by
            refine ih hkeys.2 hdistinct.2 fun key hkey => ?_
            have hne : (p.key == key) = false := by
              rw [beq_eq_false_iff_ne]
              rintro rfl
              exact hdistinct.1 hkey
            have hall := h key (List.mem_cons_of_mem _ hkey)
            rw [hget, hget, ← hkeys.1, hne, if_neg Bool.false_ne_true,
              if_neg Bool.false_ne_true] at hall
            exact hall
          have hhead := h p.key (List.mem_cons_self ..)
          rw [hget, hget, ← hkeys.1, BEq.rfl, if_pos rfl, if_pos rfl, Option.some.injEq] at hhead
          rw [own, own] at hrest
          rw [own, own, List.map_cons, List.map_cons, hrest, hkeys.1, hhead]

theorem run_same_iff {ps qs : List Plain} (hsame : ps.map Plain.operands = qs.map Plain.operands)
    (hnormal : ∀ p ∈ ps, ∃ w, p.literal.normal = .ok w) (hdistinct : (ps.map Plain.key).Nodup)
    (hcompare : "compare" ∉ ps.map Plain.key) :
    (∀ q, (b.run ps []).get? q = (b.run qs []).get? q) ↔
      b.lastWritten ps = b.lastWritten qs ∧ List.Forall₂ Plain.SameShape ps qs := by
  have hkeys : ps.map Plain.key = qs.map Plain.key := by
    have hfst := congrArg (List.map Prod.fst) hsame
    rw [List.map_map, List.map_map] at hfst
    exact hfst
  have hget := fun q => get?_run (b := b) hdistinct hcompare [] q
  have hget' := fun q => get?_run (b := b) (hkeys ▸ hdistinct) (hkeys ▸ hcompare) [] q
  simp only [Dict.get?_nil, Option.or_none] at hget hget'
  rw [← own_eq_iff hsame hnormal]
  constructor
  · intro hall
    constructor
    · -- Under the shared key there are texts, and each operator has a text of its own.
      have hlast := hall (.text "compare")
      rw [hget, hget', Value.eqv_text, BEq.rfl, if_pos rfl, if_pos rfl] at hlast
      refine Option.map_injective (f := fun t : Token => Value.text t.text) ?_ hlast
      intro t u htext
      exact Token.text_injective (Value.text.inj htext)
    · refine own_eq_of_get? hkeys hdistinct fun key hkey => ?_
      have hne : ("compare" == key) = false := by
        rw [beq_eq_false_iff_ne]
        rintro rfl
        exact hcompare hkey
      have hown := hall (.text key)
      rw [hget, hget', Value.eqv_text, hne, if_neg Bool.false_ne_true,
        if_neg Bool.false_ne_true] at hown
      exact hown
  · rintro ⟨hlast, hown⟩ q
    rw [hget, hget', hlast, hown]

theorem normal_of_makes {xs : List Value} {ps : List Plain} (h : List.Forall₂ b.Makes xs ps) :
    ∀ p ∈ ps, ∃ w, p.literal.normal = .ok w := by
  induction h with
  | nil =>
      intro p hp
      cases hp
  | cons hx _ ih => exact List.forall_mem_cons.2 ⟨hx.normal, ih⟩

/-- Two roots of plain comparisons of the same values under distinct keys make the same arguments
exactly if the last operators they write are the same and no value is put in a list by only one of
them. All other operators are forgotten. -/
theorem arguments_same_iff (b : Builder) (kind kind' : Value) (negated negated' : Bool)
    (xs xs' : List Value) (ps ps' : List Plain)
    (hroot : (Value.expr kind xs negated).isRoot = true)
    (hroot' : (Value.expr kind' xs' negated').isRoot = true)
    (h : List.Forall₂ b.Makes xs ps) (h' : List.Forall₂ b.Makes xs' ps')
    (hsame : ps.map Plain.operands = ps'.map Plain.operands)
    (hdistinct : (ps.map Plain.key).Nodup) (hcompare : "compare" ∉ ps.map Plain.key) :
    (b.standIns.catalog = none →
      (∃ d, b.arguments Strategy.standard (.expr kind xs negated) = .ok d) ∧
        ∃ d', b.arguments Strategy.standard (.expr kind' xs' negated') = .ok d') ∧
      ∀ d d', b.arguments Strategy.standard (.expr kind xs negated) = .ok d →
        b.arguments Strategy.standard (.expr kind' xs' negated') = .ok d' →
          ((∀ q, d.get? q = d'.get? q) ↔
            b.lastWritten ps = b.lastWritten ps' ∧ List.Forall₂ Plain.SameShape ps ps') := by
  constructor
  · intro hnone
    constructor
    · obtain hd | ⟨hsome, -⟩ := arguments_of_makes hroot h
      · exact ⟨_, hd⟩
      · exact absurd hnone hsome
    · obtain hd | ⟨hsome, -⟩ := arguments_of_makes hroot' h'
      · exact ⟨_, hd⟩
      · exact absurd hnone hsome
  · intro d d' hd hd'
    rw [eq_run_of_arguments_eq_ok hroot h hd, eq_run_of_arguments_eq_ok hroot' h' hd']
    exact run_same_iff hsame (normal_of_makes h) hdistinct hcompare

theorem arguments_same_of_greater_last :
    ∃ d d', ({} : Builder).arguments Strategy.standard (.expr (.junction .and)
        [.expr (.comparison .notEqual) [.variable (.text "a"), .literal (.int 1)] false,
          .expr (.comparison .greater) [.variable (.text "b"), .literal (.int 2)] false] false)
        = .ok d ∧
      ({} : Builder).arguments Strategy.standard (.expr (.junction .and)
        [.expr (.comparison .less) [.variable (.text "a"), .literal (.int 1)] false,
          .expr (.comparison .greater) [.variable (.text "b"), .literal (.int 2)] false] false)
        = .ok d' ∧
      ∀ q, d.get? q = d'.get? q := by
  have hnotEqual : ({} : Builder).Makes
      (.expr (.comparison .notEqual) [.variable (.text "a"), .literal (.int 1)] false)
      ⟨"a", .int 1, .notEqual⟩ := makes_of_resolve rfl rfl
  have hless : ({} : Builder).Makes
      (.expr (.comparison .less) [.variable (.text "a"), .literal (.int 1)] false)
      ⟨"a", .int 1, .less⟩ := makes_of_resolve rfl rfl
  have hgreater : ({} : Builder).Makes
      (.expr (.comparison .greater) [.variable (.text "b"), .literal (.int 2)] false)
      ⟨"b", .int 2, .greater⟩ := makes_of_resolve rfl rfl
  obtain ⟨hbuild, hiff⟩ := arguments_same_iff {} (.junction .and) (.junction .and) false false
    _ _ _ _ rfl rfl (.cons hnotEqual (.cons hgreater .nil)) (.cons hless (.cons hgreater .nil))
    rfl (by decide) (by decide)
  obtain ⟨⟨d, hd⟩, d', hd'⟩ := hbuild rfl
  refine ⟨d, d', hd, hd', (hiff d d' hd hd').2 ⟨rfl, ?_⟩⟩
  simp [Plain.SameShape, Token.takesList]

/-- Terms with other operators, and yet the same arguments: the operator of the second term is put
in the place of that of the first. -/
theorem not_arguments_tell_operators :
    ¬ ∀ (b : Builder) (kind kind' : Value) (negated negated' : Bool) (xs xs' : List Value)
        (ps ps' : List Plain) (d d' : Dict),
      (Value.expr kind xs negated).isRoot = true →
      (Value.expr kind' xs' negated').isRoot = true →
      List.Forall₂ b.Makes xs ps → List.Forall₂ b.Makes xs' ps' →
      ps.map Plain.operands = ps'.map Plain.operands → (ps.map Plain.key).Nodup →
      "compare" ∉ ps.map Plain.key → "meta_query" ∉ ps.map Plain.key →
      "tax_query" ∉ ps.map Plain.key → ps.map Plain.token ≠ ps'.map Plain.token →
      b.arguments Strategy.standard (.expr kind xs negated) = .ok d →
      b.arguments Strategy.standard (.expr kind' xs' negated') = .ok d' → d ≠ d' := by
  intro htell
  have hnotEqual : ({} : Builder).Makes
      (.expr (.comparison .notEqual) [.variable (.text "a"), .literal (.int 1)] false)
      ⟨"a", .int 1, .notEqual⟩ := makes_of_resolve rfl rfl
  have hmore : ({} : Builder).Makes
      (.expr (.comparison .greater) [.variable (.text "a"), .literal (.int 1)] false)
      ⟨"a", .int 1, .greater⟩ := makes_of_resolve rfl rfl
  have hgreater : ({} : Builder).Makes
      (.expr (.comparison .greater) [.variable (.text "b"), .literal (.int 2)] false)
      ⟨"b", .int 2, .greater⟩ := makes_of_resolve rfl rfl
  have hall : List.Forall₂ ({} : Builder).Makes _ _ := .cons hnotEqual (.cons hgreater .nil)
  have hall' : List.Forall₂ ({} : Builder).Makes _ _ := .cons hmore (.cons hgreater .nil)
  have hroot : ∀ xs, (Value.expr (.junction .and) xs false).isRoot = true := fun _ => rfl
  have hsame : ({} : Builder).run [⟨"a", .int 1, .notEqual⟩, ⟨"b", .int 2, .greater⟩] []
      = ({} : Builder).run [⟨"a", .int 1, .greater⟩, ⟨"b", .int 2, .greater⟩] [] := by
    cbv
  obtain hd | ⟨hsome, -⟩ := arguments_of_makes (hroot _) hall
  · obtain hd' | ⟨hsome, -⟩ := arguments_of_makes (hroot _) hall'
    · exact htell {} _ _ _ _ _ _ _ _ _ _ (hroot _) (hroot _) hall hall' rfl (by decide)
        (by decide) (by decide) (by decide) (by decide) hd hd' hsame
    · exact hsome rfl
  · exact hsome rfl

end Builder

end PostQuery
