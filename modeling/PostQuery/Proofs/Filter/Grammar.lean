import Mathlib
import PostQuery.Filter
import PostQuery.Proofs.Dict

/-!
# Which dictionaries are filters

The reader decides three things at once: whether a dictionary is a filter, whether it is nested too
deeply, and what it is read into. This file has the first two on their own, said of the dictionary
and not of the reader. `grammatical` knows nothing of depth and `nesting` nothing of the grammar.

A third predicate, `textKeyed`, is the reader's own precondition. Asking a key for its first
character is a misuse when the key is no text, so the keys of the dictionaries that are read, and of
those only, have to be texts before any refusal can be one of the filter. What a key stands for that
is no operator is the matter of the last section.
-/

namespace PostQuery.Filter

/-! ## The operators -/

/-- The operators of a field, each with the way its comparison is written in trees. -/
def symbols : List (String × String) :=
  [("$eq", "="), ("$ne", "!="), ("$gt", ">"), ("$gte", ">="), ("$lt", "<"), ("$lte", "<="),
   ("$in", "in"), ("$nin", "not_in"), ("$like", "like"), ("$between", "between"),
   ("$exists", "exists"), ("$regex", "regexp"), ("$all", "all")]

/-- An operator of a field stands for the comparison that is written beside it. -/
theorem comparison?_eq_some {operator : String} {c : Comparison} :
    comparison? operator = some c ↔ (operator, c.text) ∈ symbols := by
  have hlisted : ∀ e ∈ comparisons, (e.1, e.2.text) ∈ symbols := by
    decide
  have hfound : ∀ e ∈ symbols, comparison? e.1 = Comparison.ofText? e.2 := by
    decide
  have htext : Comparison.ofText? c.text = some c := by
    cases c <;> rfl
  constructor
  · intro h
    obtain ⟨e, he, rfl⟩ := Option.map_eq_some_iff.1 h
    have hname : e.1 = operator := by
      simpa using List.find?_some he
    rw [← hname]
    exact hlisted e (List.mem_of_find?_eq_some he)
  · intro h
    rw [hfound _ h, htext]

/-- An operator before filters stands for the junction that it is written as. -/
theorem junction?_eq_some {operator : String} {j : Junction} :
    junction? operator = some j ↔ operator = "$" ++ j.text := by
  constructor
  · intro h
    rw [junction?] at h
    split at h
    · next hand =>
        cases h
        exact eq_of_beq hand
    · split at h
      · next hor =>
          cases h
          exact eq_of_beq hor
      · cases h
  · rintro rfl
    cases j <;> decide

/-! ## The grammar -/

/-- The value is a dictionary. -/
def isDict : Value → Bool
  | .dict _ => true
  | _ => false

/-- Every key is a text and none an operator: the dictionary is a value like any other. -/
def isPlain (entries : Dict) : Bool :=
  entries.all fun e =>
    match e.1 with
    | .text name => !isOperator name
    | _ => false

mutual

/-- The value can stand after a field: anything but a dictionary, a plain dictionary, or one of
nothing but operators. -/
def isOperand : Value → Bool
  | .dict entries => isPlain entries || areOperators entries
  | _ => true

/-- Every key is an operator of a field, or negation before what can stand there itself. -/
def areOperators : List (Value × Value) → Bool
  | [] => true
  | (key, value) :: rest =>
    (match key with
      | .text name =>
        if name == negation then isDict value && isOperand value else (comparison? name).isSome
      | _ => false)
      && areOperators rest

end

mutual

/-- The dictionary is a filter: junctions stand before lists of filters, negation before a filter,
no other operator where a field is expected, and what can stand after a field after every field. -/
def grammatical : List (Value × Value) → Bool
  | [] => true
  | (key, value) :: rest =>
    (match key with
      | .text name => isEntry name value
      | _ => false)
      && grammatical rest

/-- The key and the value make an entry of a filter. -/
def isEntry (name : String) (value : Value) : Bool :=
  match junction? name with
  | some _ =>
    match value with
    | .list items => areFilters items
    | _ => false
  | none =>
    if name == negation then
      match value with
      | .dict entries => grammatical entries
      | _ => false
    else !isOperator name && isOperand value

/-- Every item is a filter. -/
def areFilters : List Value → Bool
  | [] => true
  | item :: rest =>
    (match item with
      | .dict entries => grammatical entries
      | _ => false)
      && areFilters rest

end

/-! ## The depth -/

mutual

/-- How many negations stand on top of one another in the value of a field. -/
def operandReach : Value → Nat
  | .dict entries => operatorsReach entries
  | _ => 0

def operatorsReach : List (Value × Value) → Nat
  | [] => 0
  | (key, value) :: rest =>
    max
      (match key with
        | .text name => if name == negation then 1 + operandReach value else 0
        | _ => 0)
      (operatorsReach rest)

end

mutual

/-- How many levels there are below a filter. -/
def reach : List (Value × Value) → Nat
  | [] => 0
  | (key, value) :: rest =>
    max
      (match key with
        | .text name => entryReach name value
        | _ => 0)
      (reach rest)

def entryReach (name : String) (value : Value) : Nat :=
  match junction? name with
  | some _ =>
    match value with
    | .list items => itemsReach items
    | _ => 0
  | none =>
    if name == negation then
      match value with
      | .dict entries => 1 + reach entries
      | _ => 0
    else operandReach value

def itemsReach : List Value → Nat
  | [] => 0
  | item :: rest =>
    max
      (match item with
        | .dict entries => 1 + reach entries
        | _ => 0)
      (itemsReach rest)

end

/-- How many levels a filter has, its own among them. -/
def nesting (entries : Dict) : Nat := 1 + reach entries

/-! ## The keys -/

/-- Every key is a text. -/
def areTexts (entries : Dict) : Bool :=
  entries.all fun e =>
    match e.1 with
    | .text _ => true
    | _ => false

mutual

/-- Every dictionary that is read as the value of a field has texts for keys. -/
def operandTextKeyed : Value → Bool
  | .dict entries => areTexts entries && operatorsTextKeyed entries
  | _ => true

def operatorsTextKeyed : List (Value × Value) → Bool
  | [] => true
  | (key, value) :: rest =>
    (match key with
      | .text name => !(name == negation) || operandTextKeyed value
      | _ => true)
      && operatorsTextKeyed rest

end

mutual

/-- Every dictionary that is read as a filter, or as the value of a field, has texts for keys. -/
def textKeyed : List (Value × Value) → Bool
  | [] => true
  | (key, value) :: rest =>
    (match key with
      | .text name => entryTextKeyed name value
      | _ => false)
      && textKeyed rest

def entryTextKeyed (name : String) (value : Value) : Bool :=
  match junction? name with
  | some _ =>
    match value with
    | .list items => itemsTextKeyed items
    | _ => true
  | none =>
    if name == negation then
      match value with
      | .dict entries => textKeyed entries
      | _ => true
    else isOperator name || operandTextKeyed value

def itemsTextKeyed : List Value → Bool
  | [] => true
  | item :: rest =>
    (match item with
      | .dict entries => textKeyed entries
      | _ => true)
      && itemsTextKeyed rest

end

/-! ## Operators among the keys

The reader looks for an operator by going through the keys until it meets one, and every key before
that has to be a text. On texts the search answers what `isPlain` asks. -/

theorem hasOperator_eq_false {entries : Dict} :
    hasOperator entries = .ok false ↔ isPlain entries = true := by
  induction entries with
  | nil => simp [hasOperator, isPlain]
  | cons e rest ih =>
      obtain ⟨key, value⟩ := e
      cases key with
      | text name =>
          rw [hasOperator]
          cases hop : isOperator name with
          | true => simp [isPlain, hop]
          | false => simpa [isPlain, hop] using ih
      | _ => simp [hasOperator, isPlain]

theorem hasOperator_of_areTexts {entries : Dict} (h : areTexts entries = true) :
    hasOperator entries = .ok (!isPlain entries) := by
  induction entries with
  | nil => rfl
  | cons e rest ih =>
      obtain ⟨key, value⟩ := e
      cases key with
      | text name =>
          have hrest : areTexts rest = true := by simpa [areTexts] using h
          rw [hasOperator]
          cases hop : isOperator name with
          | true => simp [isPlain, hop]
          | false => simpa [isPlain, hop] using ih hrest
      | _ => simp [areTexts] at h

theorem areTexts_of_hasOperator_error {entries : Dict} {m : Misuse}
    (h : hasOperator entries = .error m) : areTexts entries = false := by
  cases htexts : areTexts entries with
  | false => rfl
  | true =>
      rw [hasOperator_of_areTexts htexts] at h
      cases h

theorem areTexts_of_areOperators {entries : Dict} (h : areOperators entries = true) :
    areTexts entries = true := by
  induction entries with
  | nil => rfl
  | cons e rest ih =>
      obtain ⟨key, value⟩ := e
      cases key with
      | text name =>
          simp only [areOperators, Bool.and_eq_true] at h
          simpa [areTexts] using ih h.2
      | _ => simp [areOperators] at h

theorem operatorsReach_of_isPlain {entries : Dict} (h : isPlain entries = true) :
    operatorsReach entries = 0 := by
  induction entries with
  | nil => rfl
  | cons e rest ih =>
      obtain ⟨key, value⟩ := e
      cases key with
      | text name =>
          simp only [isPlain, List.all_cons, Bool.and_eq_true, Bool.not_eq_true'] at h
          have hne : (name == negation) = false := by
            cases hn : name == negation with
            | false => rfl
            | true =>
                rw [eq_of_beq hn] at h
                exact absurd h.1 (by decide)
          simp [operatorsReach, hne, ih h.2]
      | _ => simp [isPlain] at h

/-! ## The fields

A key is taken apart at its first dot, and what comes out is a field only if there is something on
either side of it and the first part is one of the two entities. -/

/-- The key is a name after the entity and a dot, the first there is. -/
structure Names (key entity name : String) : Prop where
  joined : key.toList = entity.toList ++ '.' :: name.toList
  first : '.' ∉ entity.toList
  named : name.toList ≠ []

/-- The term is what the key stands for: a field if it names one of either entity, and otherwise a
variable. -/
inductive IsFieldTerm (s : Settings) (key : String) : Value → Prop
  | ofEntity {entity name : String} (hkey : Names key entity name)
      (hentity : s.metaEntity = .text entity ∨ s.taxonomyEntity = .text entity) :
      IsFieldTerm s key (.field (.text entity) (.text name))
  | ofVariable (hkey : ∀ entity name, Names key entity name →
      s.metaEntity ≠ .text entity ∧ s.taxonomyEntity ≠ .text entity) :
      IsFieldTerm s key (.variable (.text key))

theorem Names.split {key entity name : String} (h : Names key entity name) :
    key.toList.takeWhile (· != '.') = entity.toList ∧
      key.toList.dropWhile (· != '.') = '.' :: name.toList := by
  have hbefore : ∀ c ∈ entity.toList, (c != '.') = true := by
    intro c hc
    rw [bne_iff_ne]
    rintro rfl
    exact h.first hc
  rw [h.joined, List.takeWhile_append_of_pos hbefore, List.dropWhile_append_of_pos hbefore]
  simp

theorem names_of_split {key : String} {c : Char} {name : List Char}
    (h : key.toList.dropWhile (· != '.') = c :: name) (hname : name ≠ []) :
    Names key (String.ofList (key.toList.takeWhile (· != '.'))) (String.ofList name) := by
  have hdot : c = '.' := by
    have hhead := List.head?_dropWhile_not (· != '.') key.toList
    rw [h] at hhead
    simpa using hhead
  constructor
  case joined =>
    rw [hdot] at h
    rw [String.toList_ofList, String.toList_ofList, ← h, List.takeWhile_append_dropWhile]
  case first =>
    rw [String.toList_ofList]
    intro hmem
    simpa using List.mem_takeWhile_imp hmem
  case named => rwa [String.toList_ofList]

theorem isFieldTerm_fieldTerm (s : Settings) (key : String) :
    IsFieldTerm s key (fieldTerm s key) := by
  rw [fieldTerm]
  split
  · next c d ds hrest =>
      have hnames := names_of_split hrest (List.cons_ne_nil d ds)
      split
      · next hentity =>
          rw [Bool.or_eq_true] at hentity
          exact .ofEntity hnames (hentity.imp Value.eq_of_text_eqv Value.eq_of_text_eqv)
      · next hentity =>
          refine .ofVariable fun entity name h => ?_
          rw [h.split.1, String.ofList_toList, Bool.or_eq_true, not_or] at hentity
          constructor
          · intro hmeta
            exact hentity.1 (by rw [hmeta, Value.eqv_text, BEq.rfl])
          · intro htaxonomy
            exact hentity.2 (by rw [htaxonomy, Value.eqv_text, BEq.rfl])
  · next hnone =>
      refine .ofVariable fun entity name h => ?_
      obtain ⟨d, ds, hname⟩ := List.exists_cons_of_ne_nil h.named
      exact absurd (h.split.2.trans (by rw [hname])) (hnone '.' d ds)

end PostQuery.Filter
