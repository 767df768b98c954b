import PostQuery.Proofs.Filter.Grammar
import PostQuery.Report

/-!
# Reading without the count of levels

The reader threads a count of levels through five mutually recursive functions, and every level it
enters it leaves again. So the count is bookkeeping: what a filter is read into does not depend on
it, and `trees` computes that alone.

The proof is one relation, `Settles`, between a step of reading and what `Grammar.lean` and `trees`
say of its input, and one lemma for each way in which the reader puts steps together. Legality and
clean keys combine by conjunction and depths by their maximum, which is how the definitions of the
grammar combine them, so each function of the reader is settled by following its own text.

What comes out is `readEntries_settles`: from any level within the limit, the reader returns the
trees on the very level it started from where the dictionary is grammatical and goes no deeper than
the limit, and refuses it everywhere else. All facts about reading derive from this one.
-/

namespace PostQuery.Filter

/-! ## The trees -/

mutual

/-- The conditions of a field with a value. -/
def operandTrees (field : Value) : Value → Bool → List Value
  | .dict entries, negated =>
    if isPlain entries then [condition field .equal (.dict entries) negated]
    else operatorTrees field entries negated
  | v, negated => [condition field .equal v negated]

def operatorTrees (field : Value) : List (Value × Value) → Bool → List Value
  | [], _ => []
  | (key, value) :: rest, negated =>
    (match key with
      | .text name =>
        if name == negation then operandTrees field value (!negated)
        else match comparison? name with
          | some c => [condition field c value negated]
          | none => []
      | _ => [])
      ++ operatorTrees field rest negated

end

mutual

/-- The conditions of the entries of a filter, in order. -/
def trees (s : Settings) : List (Value × Value) → List Value
  | [] => []
  | (key, value) :: rest =>
    (match key with
      | .text name => entryTrees s name value
      | _ => [])
      ++ trees s rest

def entryTrees (s : Settings) (name : String) (value : Value) : List Value :=
  match junction? name with
  | some j =>
    match value with
    | .list items => [.expr (.junction j) (itemTrees s items) false]
    | _ => []
  | none =>
    if name == negation then
      match value with
      | .dict entries => [negate (grouped (trees s entries))]
      | _ => []
    else operandTrees (fieldTerm s name) value false

def itemTrees (s : Settings) : List Value → List Value
  | [] => []
  | item :: rest =>
    (match item with
      | .dict entries => grouped (trees s entries)
      | v => v)
      :: itemTrees s rest

end

/-- The tree of a filter; one that counts as false has no conditions. -/
def tree (s : Settings) : Value → Value
  | .dict entries => .expr (.junction .and) (trees s entries) false
  | _ => .expr (.junction .and) [] false

/-! What the conditions of a field have, all trees have that its value is read into. -/

section

variable {field : Value} {P : Value → Prop}
  (hP : ∀ c operand negated, P (condition field c operand negated))

include hP

mutual

theorem mem_operandTrees (value : Value) (negated : Bool) :
    ∀ x ∈ operandTrees field value negated, P x := by
  intro x hx
  cases value with
  | dict entries =>
      rw [operandTrees] at hx
      split at hx
      · rw [List.mem_singleton.1 hx]
        exact hP .equal _ negated
      · exact mem_operatorTrees entries negated x hx
  | _ =>
      rw [List.mem_singleton.1 hx]
      exact hP .equal _ negated

theorem mem_operatorTrees (entries : List (Value × Value)) (negated : Bool) :
    ∀ x ∈ operatorTrees field entries negated, P x := by
  intro x hx
  match entries with
  | [] => cases hx
  | (operator, value) :: rest =>
      have hrest := mem_operatorTrees rest negated
      cases operator with
      | text name =>
          rw [operatorTrees, List.mem_append] at hx
          obtain hx | hx := hx
          · cases hneg : name == negation with
            | true =>
                rw [hneg] at hx
                exact mem_operandTrees value (!negated) x hx
            | false =>
                rw [hneg] at hx
                cases hc : comparison? name with
                | some c =>
                    rw [hc] at hx
                    rw [List.mem_singleton.1 hx]
                    exact hP c value negated
                | none =>
                    rw [hc] at hx
                    cases hx
          · exact hrest x hx
      | _ => exact hrest x hx

end

end

/-! What conditions have, and groups and opposites of trees that have it, all trees have that a
legal filter is read into. -/

/-- Every way of making a tree keeps the property. -/
structure KeptByReading (s : Settings) (P : Value → Prop) : Prop where
  condition : ∀ key c operand negated, P (condition (fieldTerm s key) c operand negated)
  group : ∀ j xs, (∀ x ∈ xs, P x) → P (.expr (.junction j) xs false)
  negate : ∀ x, P x → P (negate x)

namespace KeptByReading

variable {s : Settings} {P : Value → Prop}

theorem grouped (hP : KeptByReading s P) {xs : List Value} (h : ∀ x ∈ xs, P x) :
    P (grouped xs) := by
  match xs with
  | [] => exact hP.group .and [] h
  | [x] => exact h x (List.mem_singleton_self x)
  | x :: y :: rest => exact hP.group .and (x :: y :: rest) h

mutual

theorem mem_trees (hP : KeptByReading s P) (entries : List (Value × Value))
    (hlegal : grammatical entries = true) : ∀ x ∈ trees s entries, P x := by
  intro x hx
  match entries with
  | [] => cases hx
  | (key, value) :: rest =>
      cases key with
      | text name =>
          rw [grammatical, Bool.and_eq_true] at hlegal
          rw [trees, List.mem_append] at hx
          obtain hx | hx := hx
          · exact mem_entryTrees hP name value hlegal.1 x hx
          · exact mem_trees hP rest hlegal.2 x hx
      | _ => cases hlegal

theorem mem_entryTrees (hP : KeptByReading s P) (name : String) (value : Value)
    (hlegal : isEntry name value = true) : ∀ x ∈ entryTrees s name value, P x := by
  intro x hx
  rw [isEntry.eq_def] at hlegal
  rw [entryTrees.eq_def] at hx
  cases hj : junction? name with
  | some j =>
      rw [hj] at hlegal hx
      cases value with
      | list items =>
          rw [List.mem_singleton.1 hx]
          exact hP.group j _ (mem_itemTrees hP items hlegal)
      | _ => cases hx
  | none =>
      rw [hj] at hlegal hx
      cases hneg : name == negation with
      | true =>
          rw [hneg] at hlegal hx
          cases value with
          | dict inner =>
              rw [List.mem_singleton.1 hx]
              exact hP.negate _ (hP.grouped (mem_trees hP inner hlegal))
          | _ => cases hlegal
      | false =>
          rw [hneg] at hx
          exact mem_operandTrees (hP.condition name) value false x hx

theorem mem_itemTrees (hP : KeptByReading s P) (items : List Value)
    (hlegal : areFilters items = true) : ∀ x ∈ itemTrees s items, P x := by
  intro x hx
  match items with
  | [] => cases hx
  | item :: rest =>
      cases item with
      | dict inner =>
          rw [areFilters, Bool.and_eq_true] at hlegal
          rw [itemTrees, List.mem_cons] at hx
          obtain rfl | hx := hx
          · exact hP.grouped (mem_trees hP inner hlegal.1)
          · exact mem_itemTrees hP rest hlegal.2 x hx
      | _ => cases hlegal

end

end KeptByReading

/-! ## Steps that settle -/

/-- Which class reports a fault; a misuse is reported under none of the library's own. -/
def Fault.class? : Fault → Option ReportClass
  | .misuse _ => none
  | _ => some .invalidFilter

/-- So many more levels fit below a level. -/
def Fits (limit : Int) (level depth : Nat) : Prop := ((level + depth : Nat) : Int) ≤ limit

theorem fits_max {limit : Int} {level m n : Nat} :
    Fits limit level (max m n) ↔ Fits limit level m ∧ Fits limit level n := by
  simp only [Fits]
  omega

theorem fits_succ {limit : Int} {level depth : Nat} :
    Fits limit level (1 + depth) ↔ Fits limit (level + 1) depth := by
  simp only [Fits]
  omega

theorem Fits.of_le {limit : Int} {level m n : Nat} (h : Fits limit level n) (hle : m ≤ n) :
    Fits limit level m := by
  simp only [Fits] at h ⊢
  omega

/-- What a step of reading does from a level: where the input is `legal` and goes no deeper than
fits, it returns the result on the level it started from; everywhere else it is refused, as an
invalid filter if the keys are `clean`. -/
structure Settles {α : Type} (limit : Int) (level : Nat) (step : Reading α) (legal : Bool)
    (depth : Nat) (result : α) (clean : Bool) : Prop where
  returns : legal = true → Fits limit level depth → step.run level = (.ok result, level)
  refuses : ¬(legal = true ∧ Fits limit level depth) →
    ∃ f left, step.run level = (.error f, left) ∧ (clean = true → f.class? = some .invalidFilter)

/-! The monad of reading, opened once: a step that returns hands its level on, and one that is
refused ends the run. -/

theorem run_bind_ok {α β : Type} {step : Reading α} {next : α → Reading β} {level left : Nat}
    {a : α} (h : step.run level = (.ok a, left)) :
    (step >>= next).run level = (next a).run left := by
  rw [ExceptT.run_bind]
  change StateT.bind step.run _ level = _
  simp only [StateT.bind, bind, h]

theorem run_bind_error {α β : Type} {step : Reading α} {next : α → Reading β} {level left : Nat}
    {f : Fault} (h : step.run level = (.error f, left)) :
    (step >>= next).run level = (.error f, left) := by
  rw [ExceptT.run_bind]
  change StateT.bind step.run _ level = _
  simp only [StateT.bind, bind, h]
  rfl

namespace Settles

variable {α β : Type} {limit : Int} {level : Nat}

theorem pure {a : α} (h : Fits limit level 0) {clean : Bool} :
    Settles limit level (Pure.pure a) true 0 a clean :=
  ⟨fun _ _ => rfl, fun hno => absurd ⟨rfl, h⟩ hno⟩

theorem throw {f : Fault} {depth : Nat} {a : α} {clean : Bool}
    (h : clean = true → f.class? = some .invalidFilter) :
    Settles limit level (MonadExcept.throw f) false depth a clean :=
  ⟨fun hno => Bool.noConfusion hno, fun _ => ⟨f, level, rfl, h⟩⟩

theorem bind {step : Reading α} {next : α → Reading β} {legal legal' clean clean' : Bool}
    {depth depth' : Nat} {a : α} {b : β} (h : Settles limit level step legal depth a clean)
    (h' : Settles limit level (next a) legal' depth' b clean') :
    Settles limit level (step >>= next) (legal && legal') (max depth depth') b
      (clean && clean') := by
  constructor
  · intro hlegal hfits
    rw [Bool.and_eq_true] at hlegal
    rw [fits_max] at hfits
    rw [run_bind_ok (h.returns hlegal.1 hfits.1)]
    exact h'.returns hlegal.2 hfits.2
  · intro hno
    rw [Bool.and_eq_true, fits_max] at hno
    by_cases hfirst : legal = true ∧ Fits limit level depth
    · obtain ⟨f, left, hrun, hclean⟩ := h'.refuses fun hrest =>
        hno ⟨⟨hfirst.1, hrest.1⟩, hfirst.2, hrest.2⟩
      refine ⟨f, left, ?_, fun hc => hclean (Bool.and_eq_true _ _ ▸ hc).2⟩
      rw [run_bind_ok (h.returns hfirst.1 hfirst.2)]
      exact hrun
    · obtain ⟨f, left, hrun, hclean⟩ := h.refuses hfirst
      exact ⟨f, left, run_bind_error hrun, fun hc => hclean (Bool.and_eq_true _ _ ▸ hc).1⟩

theorem map {step : Reading α} {legal clean : Bool} {depth : Nat} {a : α} (g : α → β)
    (h : Settles limit level step legal depth a clean) :
    Settles limit level (step >>= fun x => Pure.pure (g x)) legal depth (g a) clean := by
  constructor
  · intro hlegal hfits
    rw [run_bind_ok (h.returns hlegal hfits)]
    rfl
  · intro hno
    obtain ⟨f, left, hrun, hclean⟩ := h.refuses hno
    exact ⟨f, left, run_bind_error hrun, hclean⟩

/-- Conditions followed by more conditions, the way every list of entries is read. -/
theorem append {first rest : Reading (List α)} {legal legal' clean clean' : Bool}
    {depth depth' : Nat} {xs ys : List α} (h : Settles limit level first legal depth xs clean)
    (h' : Settles limit level rest legal' depth' ys clean') :
    Settles limit level (first >>= fun as => rest >>= fun bs => Pure.pure (as ++ bs))
      (legal && legal') (max depth depth') (xs ++ ys) (clean && clean') :=
  h.bind (h'.map (xs ++ ·))

theorem weaken {step : Reading α} {legal clean clean' : Bool} {depth : Nat} {a : α}
    (h : Settles limit level step legal depth a clean) (hc : clean' = true → clean = true) :
    Settles limit level step legal depth a clean' := by
  refine ⟨h.returns, fun hno => ?_⟩
  obtain ⟨f, left, hrun, hclean⟩ := h.refuses hno
  exact ⟨f, left, hrun, fun h' => hclean (hc h')⟩

/-- One level down, the step needs to be settled only if the level is within the limit. -/
theorem deeper {step : Reading α} {legal clean : Bool} {depth : Nat} {a : α}
    (h : Fits limit (level + 1) 0 → Settles limit (level + 1) step legal depth a clean) :
    Settles limit level (Filter.deeper limit step) legal (1 + depth) a clean := by
  by_cases hl : limit < (level + 1 : Nat)
  · have hrun : (Filter.deeper limit step).run level = (.error (.tooDeep limit), level + 1) :=
      if_pos hl
    refine ⟨fun _ hfits => ?_, fun _ => ⟨_, _, hrun, fun _ => rfl⟩⟩
    have hzero := (fits_succ.1 hfits).of_le (Nat.zero_le depth)
    exact absurd hl (Int.not_lt.2 hzero)
  · have hrun : (Filter.deeper limit step).run level
        = ((step.run (level + 1)).1, (step.run (level + 1)).2 - 1) := if_neg hl
    have hstep := h (Int.not_lt.1 hl)
    constructor
    · intro hlegal hfits
      rw [hrun, hstep.returns hlegal (fits_succ.1 hfits)]
      rfl
    · intro hno
      obtain ⟨f, left, hf, hclean⟩ := hstep.refuses fun hyes =>
        hno ⟨hyes.1, fits_succ.2 hyes.2⟩
      exact ⟨f, left - 1, by rw [hrun, hf], hclean⟩

end Settles

/-! ## The reader settles

The value of a field first, then filters. A value is taken apart before the definitions are opened,
since the reader and the grammar only compute on its constructor. -/

mutual

theorem readField_settles {rules : Rules} (field value : Value) (negated : Bool)
    {level : Nat} (hl : Fits rules.limit level 0) :
    Settles rules.limit level (readField rules field value negated) (isOperand value)
      (operandReach value) (operandTrees field value negated) (operandTextKeyed value) := by
  cases value with
  | dict entries =>
      rw [readField.eq_def]
      simp only [isOperand, operandReach, operandTrees, operandTextKeyed]
      have hops := readOperators_settles field entries negated hl
      cases hplain : isPlain entries with
      | true =>
          rw [hasOperator_eq_false.2 hplain, operatorsReach_of_isPlain hplain]
          exact Settles.pure hl
      | false =>
          cases hfound : hasOperator entries with
          | error m =>
              -- A key that is no text is met before any operator, so neither form is there.
              have htexts := areTexts_of_hasOperator_error hfound
              have hnone : areOperators entries = false := by
                cases hop : areOperators entries with
                | false => rfl
                | true =>
                    rw [areTexts_of_areOperators hop] at htexts
                    cases htexts
              rw [hnone, htexts]
              exact Settles.throw fun h => Bool.noConfusion h
          | ok found =>
              cases found with
              | false =>
                  rw [hasOperator_eq_false.1 hfound] at hplain
                  cases hplain
              | true => exact hops.weaken (fun h => (Bool.and_eq_true _ _ ▸ h).2)
  | _ =>
      rw [readField.eq_def]
      exact Settles.pure hl

theorem readOperators_settles {rules : Rules} (field : Value) (entries : List (Value × Value))
    (negated : Bool) {level : Nat} (hl : Fits rules.limit level 0) :
    Settles rules.limit level (readOperators rules field entries negated) (areOperators entries)
      (operatorsReach entries) (operatorTrees field entries negated)
      (operatorsTextKeyed entries) := by
  match entries with
  | [] =>
      rw [readOperators.eq_def]
      exact Settles.pure hl
  | (key, value) :: rest =>
      have hrest := readOperators_settles field rest negated hl
      rw [readOperators.eq_def]
      simp only [areOperators, operatorsReach, operatorTrees, operatorsTextKeyed]
      cases key with
      | text name =>
          simp only []
          cases hneg : name == negation with
          | true =>
              simp only [if_true]
              cases value with
              | dict inner =>
                  simp only [isDict, Bool.true_and, Bool.not_true, Bool.false_or]
                  -- Only here does the value of a field go a level deeper.
                  exact (Settles.deeper fun hlt =>
                    readField_settles field (.dict inner) (!negated) hlt).append hrest
              | _ => exact (Settles.throw fun _ => rfl).append hrest
          | false =>
              simp only [Bool.false_eq_true, if_false]
              cases hc : comparison? name with
              | some c => exact (Settles.pure hl).append hrest
              | none => exact (Settles.throw fun _ => rfl).append hrest
      | _ => exact (Settles.throw fun _ => rfl).append hrest

end

mutual

/-- From any level within the limit, the reader gives the trees of a filter that goes no deeper than
the limit, and is back on the level it started from. -/
theorem readEntries_settles {rules : Rules} (entries : List (Value × Value)) {level : Nat}
    (hl : Fits rules.limit level 0) :
    Settles rules.limit level (readEntries rules entries) (grammatical entries) (reach entries)
      (trees rules.settings entries) (textKeyed entries) := by
  match entries with
  | [] =>
      rw [readEntries.eq_def]
      exact Settles.pure hl
  | (key, value) :: rest =>
      have hrest := readEntries_settles rest hl
      rw [readEntries.eq_def]
      simp only [grammatical, reach, trees, textKeyed]
      cases key with
      | text name => exact (readEntry_settles name value hl).append hrest
      | _ => exact (Settles.throw fun h => Bool.noConfusion h).append hrest

theorem readEntry_settles {rules : Rules} (name : String) (value : Value) {level : Nat}
    (hl : Fits rules.limit level 0) :
    Settles rules.limit level (readEntry rules name value) (isEntry name value)
      (entryReach name value) (entryTrees rules.settings name value)
      (entryTextKeyed name value) := by
  rw [readEntry.eq_def, isEntry.eq_def, entryReach.eq_def, entryTrees.eq_def,
    entryTextKeyed.eq_def]
  cases hj : junction? name with
  | some j =>
      cases value with
      | list items => exact (readItems_settles name items hl).map fun parts =>
          [Value.expr (.junction j) parts false]
      | _ => exact Settles.throw fun _ => rfl
  | none =>
      cases hneg : name == negation with
      | true =>
          simp only [if_true]
          cases value with
          | dict inner =>
              exact (Settles.deeper fun hlt => readEntries_settles inner hlt).map
                fun conditions => [negate (grouped conditions)]
          | _ => exact Settles.throw fun _ => rfl
      | false =>
          simp only [Bool.false_eq_true, if_false]
          cases hop : isOperator name with
          | true =>
              simp only [if_true, Bool.not_true, Bool.false_and]
              refine Settles.throw fun _ => ?_
              split <;> rfl
          | false =>
              simp only [Bool.false_eq_true, if_false, Bool.not_false, Bool.true_and, Bool.false_or]
              exact readField_settles _ value false hl

theorem readItems_settles {rules : Rules} (operator : String) (items : List Value) {level : Nat}
    (hl : Fits rules.limit level 0) :
    Settles rules.limit level (readItems rules operator items) (areFilters items)
      (itemsReach items) (itemTrees rules.settings items) (itemsTextKeyed items) := by
  match items with
  | [] =>
      rw [readItems.eq_def]
      exact Settles.pure hl
  | item :: rest =>
      have hrest := readItems_settles operator rest hl
      rw [readItems.eq_def, areFilters.eq_def, itemsReach.eq_def, itemTrees.eq_def,
        itemsTextKeyed.eq_def]
      cases item with
      | dict inner =>
          simp only [pure_bind]
          exact (Settles.deeper fun hlt => readEntries_settles inner hlt).bind
            (hrest.map (grouped (trees rules.settings inner) :: ·))
      | _ => exact (Settles.throw fun _ => rfl).bind (hrest.map (_ :: ·))

end

end PostQuery.Filter
