import PostQuery.Proofs.Filter.Acceptance

/-!
# What a filter means, and what it is read as

A filter is a formula over atoms: that a field compares with a value in some way, or that it is
there. Its entries are a conjunction, and so are the operators of a field; `$not` is the complement
of what follows it, before a filter and within a field alike.

The reader agrees on everything but the last. Before a filter it builds a tree and negates that;
within a field it hands a flag down and negates each condition on its own, so that the complement of
a conjunction comes out as a conjunction of complements. To say so, the meaning of a filter takes
the meaning of a field for a parameter, and a field is given two: `operandHolds`, which is the
formula, and `operandReads`, which is what the reader makes of it. `holds_tree` is the exact account
of the reader's trees in terms of the second.
-/

namespace PostQuery

/-- What is true or false of a post: that a field compares with a value in some way, or that it is
there, which takes no value. -/
structure Atom where
  field : String
  comparison : Comparison
  operand : Option Value

/-- The key under which a filter names the field that a term stands for. -/
def Value.fieldKey? : Value → Option String
  | .variable (.text key) => some key
  | .field (.text entity) (.text name) => some (entity ++ "." ++ name)
  | _ => none

namespace Atom

/-- The atom of a comparison of a tree. -/
def ofLeaf? : Value → List Value → Option Atom
  | .comparison c, [term] => term.fieldKey?.map fun key => ⟨key, c, none⟩
  | .comparison c, [term, .literal v] => term.fieldKey?.map fun key => ⟨key, c, some v⟩
  | _, _ => none

/-- The truth value of a comparison of a tree. -/
def leaf (A : Atom → Bool) (kind : Value) (terms : List Value) : Bool :=
  match ofLeaf? kind terms with
  | some a => A a
  | none => false

end Atom

namespace Filter

open Value

/-! ## The two meanings of a field -/

/-- The truth value of one operator of a field. Presence that is asked for with a value that counts
as false is absence. -/
def conditionHolds (A : Atom → Bool) (key : String) (c : Comparison) (operand : Value) : Bool :=
  match c with
  | .present => if operand.truthy then A ⟨key, .present, none⟩ else !A ⟨key, .present, none⟩
  | _ => A ⟨key, c, some operand⟩

mutual

/-- The truth value of a field with a value: all operators hold, and negation is the complement of
what it stands before. -/
def operandHolds (A : Atom → Bool) (key : String) : Value → Bool
  | .dict entries =>
    if isPlain entries then A ⟨key, .equal, some (.dict entries)⟩
    else operatorsHold A key entries
  | v => A ⟨key, .equal, some v⟩

def operatorsHold (A : Atom → Bool) (key : String) : List (Value × Value) → Bool
  | [] => true
  | (operator, value) :: rest =>
    (match operator with
      | .text name =>
        if name == negation then !operandHolds A key value
        else match comparison? name with
          | some c => conditionHolds A key c value
          | none => false
      | _ => false)
      && operatorsHold A key rest

end

mutual

/-- The truth value of a field with a value as the reader takes it: negation goes down to every
operator on its own. -/
def operandReads (A : Atom → Bool) (key : String) : Value → Bool → Bool
  | .dict entries, negated =>
    if isPlain entries then negated ^^ A ⟨key, .equal, some (.dict entries)⟩
    else operatorsRead A key entries negated
  | v, negated => negated ^^ A ⟨key, .equal, some v⟩

def operatorsRead (A : Atom → Bool) (key : String) : List (Value × Value) → Bool → Bool
  | [], _ => true
  | (operator, value) :: rest, negated =>
    (match operator with
      | .text name =>
        if name == negation then operandReads A key value (!negated)
        else match comparison? name with
          | some c => negated ^^ conditionHolds A key c value
          | none => false
      | _ => false)
      && operatorsRead A key rest negated

end

/-! ## The meaning of a filter -/

mutual

/-- The truth value of a filter, given that of a field with a value: all entries hold. -/
def means (field : String → Value → Bool) : List (Value × Value) → Bool
  | [] => true
  | (key, value) :: rest =>
    (match key with
      | .text name => entryMeans field name value
      | _ => false)
      && means field rest

def entryMeans (field : String → Value → Bool) (name : String) (value : Value) : Bool :=
  match junction? name with
  | some j =>
    match value with
    | .list items => j.joins (itemsMean field items)
    | _ => false
  | none =>
    if name == negation then
      match value with
      | .dict entries => !means field entries
      | _ => false
    else field name value

def itemsMean (field : String → Value → Bool) : List Value → List Bool
  | [] => []
  | item :: rest =>
    (match item with
      | .dict entries => means field entries
      | _ => false)
      :: itemsMean field rest

end

/-- What a filter means. A value that counts as false asks for nothing. -/
def holds (A : Atom → Bool) : Value → Bool
  | .dict entries => means (operandHolds A) entries
  | _ => true

/-- What a filter means to the reader. -/
def reads (A : Atom → Bool) : Value → Bool
  | .dict entries => means (fun key value => operandReads A key value false) entries
  | _ => true

/-! ## The meaning of the trees -/

theorem fieldKey?_fieldTerm (s : Settings) (key : String) :
    (fieldTerm s key).fieldKey? = some key := by
  have hfield := isFieldTerm_fieldTerm s key
  generalize fieldTerm s key = field at hfield
  cases hfield with
  | @ofEntity entity name hkey _ =>
      have hjoin : entity ++ "." ++ name = key := by
        rw [← String.toList_inj, hkey.joined]
        simp
      exact congrArg some hjoin
  | ofVariable _ => rfl

theorem holds_condition {A : Atom → Bool} {field : Value} {key : String}
    (h : field.fieldKey? = some key) (c : Comparison) (operand : Value) (negated : Bool) :
    Value.holds (Atom.leaf A) (condition field c operand negated)
      = (negated ^^ conditionHolds A key c operand) := by
  rw [condition.eq_def, conditionHolds.eq_def]
  cases c with
  | present =>
      rw [holds_comparison, Atom.leaf, Atom.ofLeaf?, h]
      cases operand.truthy <;> simp
  | _ =>
      rw [holds_comparison, Atom.leaf, Atom.ofLeaf?, h]
      rfl

mutual

theorem holds_operandTrees {A : Atom → Bool} {field : Value} {key : String}
    (h : field.fieldKey? = some key) (value : Value) (negated : Bool)
    (hlegal : isOperand value = true) :
    (operandTrees field value negated).all (Value.holds (Atom.leaf A))
      = operandReads A key value negated := by
  cases value with
  | dict entries =>
      rw [operandTrees, operandReads]
      cases hplain : isPlain entries with
      | true =>
          rw [if_pos rfl, if_pos rfl, List.all_cons, List.all_nil, Bool.and_true,
            holds_condition h]
          rfl
      | false =>
          rw [isOperand, hplain, Bool.false_or] at hlegal
          exact holds_operatorTrees h entries negated hlegal
  | _ =>
      exact (Bool.and_true _).trans (holds_condition h .equal _ negated)

theorem holds_operatorTrees {A : Atom → Bool} {field : Value} {key : String}
    (h : field.fieldKey? = some key) (entries : List (Value × Value)) (negated : Bool)
    (hlegal : areOperators entries = true) :
    (operatorTrees field entries negated).all (Value.holds (Atom.leaf A))
      = operatorsRead A key entries negated := by
  match entries with
  | [] => rfl
  | (operator, value) :: rest =>
      cases operator with
      | text name =>
          rw [areOperators, Bool.and_eq_true] at hlegal
          obtain ⟨hfirst, hrest⟩ := hlegal
          rw [operatorTrees, operatorsRead, List.all_append,
            holds_operatorTrees h rest negated hrest]
          congr 1
          cases hneg : name == negation with
          | true =>
              rw [hneg, if_pos rfl, Bool.and_eq_true] at hfirst
              exact holds_operandTrees h value (!negated) hfirst.2
          | false =>
              rw [hneg] at hfirst
              cases hc : comparison? name with
              | none =>
                  rw [hc] at hfirst
                  cases hfirst
              | some c => exact (Bool.and_true _).trans (holds_condition h c value negated)
      | _ => cases hlegal

end

/-! Negation is only understood of trees, and a legal filter is read into nothing else. -/

mutual

theorem holds_trees {A : Atom → Bool} {s : Settings} (entries : List (Value × Value))
    (hlegal : grammatical entries = true) :
    (trees s entries).all (Value.holds (Atom.leaf A))
      = means (fun key value => operandReads A key value false) entries := by
  match entries with
  | [] => rfl
  | (key, value) :: rest =>
      cases key with
      | text name =>
          rw [grammatical, Bool.and_eq_true] at hlegal
          rw [trees, means, List.all_append, holds_trees rest hlegal.2]
          congr 1
          exact holds_entryTrees name value hlegal.1
      | _ => cases hlegal

theorem holds_entryTrees {A : Atom → Bool} {s : Settings} (name : String) (value : Value)
    (hlegal : isEntry name value = true) :
    (entryTrees s name value).all (Value.holds (Atom.leaf A))
      = entryMeans (fun key value => operandReads A key value false) name value := by
  rw [isEntry.eq_def] at hlegal
  rw [entryTrees.eq_def, entryMeans.eq_def]
  cases hj : junction? name with
  | some j =>
      rw [hj] at hlegal
      cases value with
      | list items =>
          simp only [List.all_cons, List.all_nil, Bool.and_true]
          rw [holds_group, Bool.false_xor, holds_itemTrees items hlegal]
      | _ => cases hlegal
  | none =>
      rw [hj] at hlegal
      cases hneg : name == negation with
      | true =>
          rw [hneg] at hlegal
          cases value with
          | dict inner =>
              simp only [if_true, List.all_cons, List.all_nil, Bool.and_true]
              rw [holds_negate _ (isTree_grouped (isTree_trees s inner hlegal)), holds_grouped,
                holds_trees inner hlegal]
          | _ => cases hlegal
      | false =>
          simp only [hneg, Bool.false_eq_true, if_false, Bool.and_eq_true] at hlegal ⊢
          exact holds_operandTrees (fieldKey?_fieldTerm s name) value false hlegal.2

theorem holds_itemTrees {A : Atom → Bool} {s : Settings} (items : List Value)
    (hlegal : areFilters items = true) :
    (itemTrees s items).map (Value.holds (Atom.leaf A))
      = itemsMean (fun key value => operandReads A key value false) items := by
  match items with
  | [] => rfl
  | item :: rest =>
      cases item with
      | dict inner =>
          rw [areFilters, Bool.and_eq_true] at hlegal
          rw [itemTrees, itemsMean, List.map_cons, holds_itemTrees rest hlegal.2]
          congr 1
          exact (holds_grouped _ _).trans (holds_trees inner hlegal.1)
      | _ => cases hlegal

end

/-- What a reader makes of a filter that it takes has the truth value that the filter has to it. -/
theorem holds_tree {A : Atom → Bool} (s : Settings) {limit : Int} {v : Value}
    (h : Acceptable limit v) : Value.holds (Atom.leaf A) (tree s v) = reads A v := by
  obtain hfalse | ⟨entries, rfl, hlegal, -⟩ := h
  · cases v with
    | dict entries =>
        rw [eq_nil_of_falsy hfalse]
        exact holds_conjunction _ []
    | _ => exact holds_conjunction _ []
  · exact (holds_conjunction _ _).trans (holds_trees entries hlegal)

end Filter

end PostQuery
