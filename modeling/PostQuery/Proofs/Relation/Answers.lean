import PostQuery.Proofs.Relation.Language

/-!
# A builder always answers

An attempt that does not build anything is refused or broken, and after a break nothing else is
tried. On the way to a block there are two places to break: where a value was given for a part of
the builder, and where an entity does not let itself be compared. With parts of its own and entities
that can be compared a builder passes both, so each of its attempts ends in a block or in a refusal.

A refusal is made where its subject is. What the steps of a clause find wrong, an operator, a value
or the operands, is the cause in a refusal of the comparison and goes no further as it is; above it,
each group is refused because one of its terms was. `Reports` says so of whole refusals.
-/

namespace PostQuery

/-- The attempt ends in something that was built, or in a refusal. -/
def Answers {α : Type} (a : Attempt α) : Prop := ∀ m, a ≠ .error (.broken m)

/-- The attempt ends in something that was built, or in a refusal with the property. -/
def RefusesBy {α : Type} (P : Failure → Prop) (a : Attempt α) : Prop :=
  (∃ y, a = .ok y) ∨ ∃ f, a = .error (.refused f) ∧ P f

theorem Answers.map {α β : Type} {a : Attempt α} (f : α → β) (ha : Answers a) :
    Answers (a.map f) := by
  cases a with
  | ok y =>
      intro m h
      cases h
  | error o =>
      intro m h
      cases h
      exact ha m rfl

namespace RefusesBy

variable {α β : Type} {P Q : Failure → Prop}

theorem ok (y : α) : RefusesBy P (.ok y : Attempt α) := .inl ⟨y, rfl⟩

theorem refused {f : Failure} (h : P f) : RefusesBy P (.error (.refused f) : Attempt α) :=
  .inr ⟨f, rfl, h⟩

theorem bind {a : Attempt α} {g : α → Attempt β} (ha : RefusesBy P a)
    (hg : ∀ y, a = .ok y → RefusesBy P (g y)) : RefusesBy P (a >>= g) := by
  obtain ⟨y, rfl⟩ | ⟨f, rfl, hf⟩ := ha
  · exact hg y rfl
  · exact refused hf

theorem map {a : Attempt α} (g : α → β) (ha : RefusesBy P a) : RefusesBy P (a.map g) := by
  obtain ⟨y, rfl⟩ | ⟨f, rfl, hf⟩ := ha
  · exact ok (g y)
  · exact refused hf

theorem mono {a : Attempt α} (ha : RefusesBy P a) (h : ∀ f, P f → Q f) : RefusesBy Q a := by
  obtain ⟨y, rfl⟩ | ⟨f, rfl, hf⟩ := ha
  · exact ok y
  · exact refused (h f hf)

theorem answers {a : Attempt α} (ha : RefusesBy P a) : Answers a := by
  obtain ⟨y, rfl⟩ | ⟨f, rfl, hf⟩ := ha
  · intro m h
    cases h
  · intro m h
    cases h

end RefusesBy

/-! ## Refusals -/

/-- The failure is what a step of a clause finds wrong, and not yet a refusal of a tree. -/
def Failure.IsRaised : Failure → Prop
  | .unsupported .. => False
  | _ => True

/-- The failure is what a step of a clause can find wrong: an operator that its context does not
have, perhaps because the kind has no text, a value, or the operands. There is no refusal of a tree
in it, at any depth. -/
def Failure.IsFound : Failure → Prop
  | .operator _ _ _ none | .operator _ _ _ (some (.value _)) | .value _ | .operands _ => True
  | _ => False

theorem Failure.IsFound.isRaised {f : Failure} (h : f.IsFound) : f.IsRaised := by
  cases f with
  | unsupported _ _ _ _ => exact h.elim
  | _ => trivial

/-- The failure is a refusal of the value, in the words of the catalog: because of what was found
wrong in it, because one of its terms is refused, or because every way to build it was. -/
inductive Reports (catalog : Catalog) : Value → Failure → Prop
  | raised (c : Complaint) {x : Value} {f : Failure} (hf : f.IsRaised) :
      Reports catalog x (.unsupported (catalog.reword c.text) x (some f) [])
  | ofTerm (c : Complaint) {kind : Value} {terms : List Value} {negated : Bool} {y : Value}
      {f : Failure} (hy : y ∈ terms) (hf : Reports catalog y f) :
      Reports catalog (.expr kind terms negated)
        (.unsupported (catalog.reword c.text) (.expr kind terms negated) (some f) [])
  | tried (c : Complaint) {x : Value} {fs : List Failure} (hfs : ∀ f ∈ fs, Reports catalog x f) :
      Reports catalog x (.unsupported (catalog.reword c.text) x none fs)

/-- The first value is a term of a node of the second, at any depth. -/
inductive IsTermOf (y : Value) : Value → Prop
  | here {kind : Value} {terms : List Value} {negated : Bool} (hy : y ∈ terms) :
      IsTermOf y (.expr kind terms negated)
  | deeper {kind : Value} {terms : List Value} {negated : Bool} {x : Value} (hx : x ∈ terms)
      (hy : IsTermOf y x) : IsTermOf y (.expr kind terms negated)

/-- Whether it is that of the mode can be asked of every entity in the tree. -/
def HasComparable (s : Settings) (mode : Mode) (x : Value) : Prop :=
  ∀ e name, IsTermOf (.field e name) x → ∃ same, e.equal (mode.entity s) = .ok same

variable {b : Builder} {mode : Mode} {kind : Value} {terms : List Value} {negated : Bool}

theorem HasComparable.of_mem {s : Settings} (h : HasComparable s mode (.expr kind terms negated))
    {x : Value} (hx : x ∈ terms) : HasComparable s mode x :=
  fun e name hfield => h e name (.deeper hx hfield)

theorem hasComparable_of_text {s : Settings} {entity : String}
    (hentity : mode.entity s = .text entity) (x : Value) : HasComparable s mode x := by
  intro e name _
  rw [hentity, Value.equal_text]
  exact ⟨_, rfl⟩

/-! ## The steps of a clause -/

theorem refusesBy_refuseWith {α : Type} {P : Failure → Prop} (hcatalog : b.standIns.catalog = none)
    {c : Complaint} {x : Value} {cause : Option Failure} {causes : List Failure}
    (h : P (.unsupported (b.catalog.reword c.text) x cause causes)) :
    RefusesBy P (b.refuseWith c x cause causes : Attempt α) := by
  rw [Builder.refuseWith, hcatalog]
  exact .refused h

theorem refusesBy_refuse {α : Type} (hparts : b.standIns = {}) (c : Complaint) (x : Value) :
    RefusesBy (Reports b.catalog x) (b.refuse c x : Attempt α) :=
  refusesBy_refuseWith (by rw [hparts]) (.tried c fun _ hf => nomatch hf)

theorem refusesBy_within {α : Type} {P Q : Failure → Prop} (hparts : b.standIns = {})
    {c : Complaint} {x : Value} {a : Attempt α} (ha : RefusesBy P a)
    (h : ∀ f, P f → Q (.unsupported (b.catalog.reword c.text) x (some f) [])) :
    RefusesBy Q (b.within c x a) := by
  obtain ⟨y, rfl⟩ | ⟨f, rfl, hf⟩ := ha
  · exact .ok y
  · exact refusesBy_refuseWith (by rw [hparts]) (h f hf)

theorem refusesBy_resolve (hparts : b.standIns = {}) (ctx : Context) (kind : Value)
    (negated : Bool) : RefusesBy Failure.IsFound (b.resolve ctx kind negated) := by
  rw [Builder.resolve_eq hparts, Context.resolve]
  cases Context.key kind with
  | error v => exact .refused trivial
  | ok k =>
      cases hpair : ctx.pair? k with
      | none =>
          simp only [hpair]
          exact .refused trivial
      | some pair =>
          simp only [hpair]
          cases negated with
          | false => exact .ok _
          | true => cases pair.negated <;> simp [Except.mapError, RefusesBy, Failure.IsFound]

theorem refusesBy_normalValue (v : Value) :
    RefusesBy Failure.IsFound (orRefused (normalValue v)) := by
  rw [normalValue]
  cases v.normal with
  | ok w => exact .ok w
  | error w => exact .refused trivial

theorem refusesBy_scanOperands {field? : Value → Attempt (Option Value)} {terms : List Value}
    (hfield : ∀ term ∈ terms, ∃ found, field? term = .ok found) (field literal : Option Value) :
    RefusesBy Failure.IsFound (scanOperands field? terms field literal) := by
  induction terms generalizing field literal with
  | nil => exact .ok _
  | cons term rest ih =>
      obtain ⟨⟨found, hfound⟩, hrest⟩ := List.forall_mem_cons.1 hfield
      rw [scanOperands_cons]
      refine .bind ?_ fun taken _ => ?_
      · cases field with
        | none =>
            rw [hfound]
            exact .ok found
        | some name => exact .ok none
      · cases taken with
        | some name => exact ih hrest _ _
        | none =>
            simp only []
            split
            · exact ih hrest _ _
            · exact .refused trivial

theorem refusesBy_operands {field? : Value → Attempt (Option Value)} {terms : List Value}
    (hfield : ∀ term ∈ terms, ∃ found, field? term = .ok found) (literalOptional : Bool) :
    RefusesBy Failure.IsFound (operands field? terms literalOptional) := by
  refine .bind (refusesBy_scanOperands hfield none none) fun (field, literal) _ => ?_
  cases field with
  | none => exact .refused trivial
  | some name =>
      simp only []
      split
      · exact .refused trivial
      · exact .ok _

theorem refusesBy_literalEntries (s : Settings) (mode : Mode) (token : Token)
    (literal : Option Value) :
    RefusesBy Failure.IsFound (orRefused (literalEntries s mode token literal)) := by
  cases literal with
  | none => cases mode <;> exact .ok _
  | some raw =>
      cases mode with
      | postMeta =>
          rw [literalEntries, orRefused_bind]
          refine .bind (refusesBy_normalValue raw) fun value _ => ?_
          rw [orRefused_bind]
          refine .bind ?_ fun shaped _ => .ok _
          rw [metaValue]
          split
          · exact .ok _
          · split
            · split
              · exact .ok _
              · exact .refused trivial
            · split
              · exact .refused trivial
              · exact .ok _
      | taxonomy =>
          rw [literalEntries, orRefused_bind]
          refine .bind (refusesBy_normalValue raw) fun value _ => ?_
          simp only []
          split
          · exact .refused trivial
          · exact .ok _

/-! ## Clauses and blocks -/

theorem exists_fieldName? (hsettings : b.standIns.settings = none)
    (h : HasComparable b.settings mode (.expr kind terms negated)) {term : Value}
    (hterm : term ∈ terms) : ∃ found, fieldName? b mode.setting mode.entity term = .ok found := by
  cases term with
  | field e name =>
      obtain ⟨same, hsame⟩ := h e name (.here hterm)
      rw [fieldName?, Builder.settingsFor, hsettings]
      change ∃ found, unbroken (e.equal (mode.entity b.settings) >>= _) = .ok found
      rw [hsame]
      cases same
      · exact ⟨none, rfl⟩
      · exact ⟨some name, rfl⟩
  | _ => exact ⟨none, rfl⟩

theorem refusesBy_clauseIn (hparts : b.standIns = {})
    (h : HasComparable b.settings mode (.expr kind terms negated)) :
    RefusesBy Failure.IsFound (b.clauseIn mode kind terms negated) := by
  have hsettings : b.standIns.settings = none := by
    rw [hparts]
  refine .bind (refusesBy_resolve hparts _ _ _) fun token _ => ?_
  refine .bind (refusesBy_operands (fun term => exists_fieldName? hsettings h) _)
    fun (name, literal) _ => ?_
  refine .bind (refusesBy_literalEntries _ _ _ _) fun entries _ => ?_
  rw [Builder.operatorEntry_eq hsettings]
  exact .ok _

/-- What a step finds wrong is the cause in a refusal of the comparison. -/
theorem refusesBy_leaf (hparts : b.standIns = {}) {x : Value}
    (h : HasComparable b.settings mode x) :
    RefusesBy (Reports b.catalog x) (b.leaf .standard mode x) := by
  cases x with
  | expr kind terms negated =>
      rw [leaf_expr]
      split
      · exact refusesBy_refuse hparts _ _
      · exact refusesBy_within hparts (refusesBy_clauseIn hparts h) fun f hf => .raised _ hf.isRaised
  | _ =>
      rw [leaf_standard]
      exact refusesBy_refuse hparts _ _

mutual

theorem refusesBy_relation (hparts : b.standIns = {}) (x : Value)
    (h : HasComparable b.settings mode x) :
    RefusesBy (Reports b.catalog x) (b.relation (b.leaf .standard mode) x) := by
  cases x with
  | expr kind terms negated =>
      have hterms := refusesBy_relationTerms hparts terms fun y hy => h.of_mem hy
      rw [relation_expr]
      -- The operator is looked up in the node itself, so what is wrong with it was found here.
      have hresolve := refusesBy_resolve hparts .relation kind negated
      refine refusesBy_within (P := fun f => f.IsFound ∨ ∃ y ∈ terms, Reports b.catalog y f)
        hparts ?_ ?_
      · refine .bind (hresolve.mono fun f hf => .inl hf) fun token _ => ?_
        exact (hterms.mono fun f hf => .inr hf).map _
      · rintro f (hf | ⟨y, hy, hf⟩)
        · exact .raised _ hf.isRaised
        · exact .ofTerm _ hy hf
  | _ => exact refusesBy_refuse hparts _ _

theorem refusesBy_relationTerms (hparts : b.standIns = {}) (terms : List Value)
    (h : ∀ y ∈ terms, HasComparable b.settings mode y) :
    RefusesBy (fun f => ∃ y ∈ terms, Reports b.catalog y f)
      (b.relationTerms (b.leaf .standard mode) terms) := by
  match terms with
  | [] => exact .ok _
  | term :: rest =>
      obtain ⟨hterm, hbelow⟩ := List.forall_mem_cons.1 h
      have hrest := refusesBy_relationTerms hparts rest hbelow
      have hpart : RefusesBy (Reports b.catalog term) (b.part (b.leaf .standard mode) term) := by
        cases term with
        | expr kind terms negated =>
            rw [Builder.part]
            split
            · exact refusesBy_relation hparts (.expr kind terms negated) hterm
            · exact refusesBy_leaf hparts hterm
        | _ => exact refusesBy_refuse hparts _ _
      rw [relationTerms_cons]
      refine .bind (hpart.mono fun f hf => ⟨term, List.mem_cons_self, hf⟩) fun part _ => ?_
      refine .bind (hrest.mono ?_) fun parts _ => .ok _
      rintro f ⟨y, hy, hf⟩
      exact ⟨y, List.mem_cons_of_mem term hy, hf⟩

end

/-! ## Answers -/

theorem answers_refuseWith {α : Type} (hcatalog : b.standIns.catalog = none) (c : Complaint)
    (x : Value) (cause : Option Failure) (causes : List Failure) :
    Answers (b.refuseWith c x cause causes : Attempt α) :=
  (refusesBy_refuseWith (P := fun _ => True) hcatalog trivial).answers

theorem answers_resolve (hparts : b.standIns = {}) (ctx : Context) (kind : Value)
    (negated : Bool) : Answers (b.resolve ctx kind negated) :=
  (refusesBy_resolve hparts ctx kind negated).answers

/-- With parts of its own and a text for the entity, a builder makes a block of a tree or refuses
it. -/
theorem answers_standardRelation {entity : String} (hparts : b.standIns = {})
    (hentity : mode.entity b.settings = .text entity) (x : Value) :
    Answers (b.standardRelation mode x) :=
  (refusesBy_relation hparts x (hasComparable_of_text hentity x)).answers

end PostQuery
