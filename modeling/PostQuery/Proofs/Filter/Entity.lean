import PostQuery.Proofs.Filter.Meaning

/-!
# Keys and the terms they stand for

A key is written as an entity, a dot and a name, and the reader takes it apart again at the first
dot. So what it finds can always be put together to the key it came from, and it finds what was put
together as long as the entity has no dot of its own.

An entity that starts with a dollar sign is never looked for, since a key that starts with one is an
operator before it is anything else.
-/

namespace PostQuery.Filter

variable {s : Settings} {key entity name : String}

/-! ## Keys -/

theorem names_append (hdot : '.' ∉ entity.toList) (hname : name ≠ "") :
    Names (entity ++ "." ++ name) entity name where
  joined := by simp
  first := hdot
  named := by
    rw [Ne, String.toList_eq_nil_iff]
    exact hname

theorem Names.eq_append (h : Names key entity name) : key = entity ++ "." ++ name := by
  rw [← String.toList_inj, h.joined]
  simp

/-- A key has one entity and one name. -/
theorem Names.unique {entity' name' : String} (h : Names key entity name)
    (h' : Names key entity' name') : entity = entity' ∧ name = name' := by
  obtain ⟨hentity, hname⟩ := h.split
  rw [h'.split.1, String.toList_inj] at hentity
  rw [h'.split.2, List.cons.injEq, String.toList_inj] at hname
  exact ⟨hentity.symm, hname.2.symm⟩

theorem fieldTerm_of_names (h : Names key entity name)
    (hentity : s.metaEntity = .text entity ∨ s.taxonomyEntity = .text entity) :
    fieldTerm s key = .field (.text entity) (.text name) := by
  have hfield := isFieldTerm_fieldTerm s key
  generalize fieldTerm s key = field at hfield
  cases hfield with
  | ofEntity hkey _ =>
      obtain ⟨rfl, rfl⟩ := h.unique hkey
      rfl
  | ofVariable hnone =>
      obtain ⟨hmeta, htaxonomy⟩ := hnone entity name h
      exact absurd hentity (not_or.2 ⟨hmeta, htaxonomy⟩)

theorem isOperator_append (h : isOperator entity = false) (name : String) :
    isOperator (entity ++ "." ++ name) = false := by
  rw [isOperator] at h ⊢
  rw [String.toList_append, String.toList_append, List.append_assoc]
  cases hchars : entity.toList with
  | nil => rfl
  | cons c cs =>
      rw [hchars] at h
      exact h

/-! ## The comparisons of one field -/

/-- The value can be compared with as it is: it is no dictionary, or one without operators. -/
def isLiteral : Value → Bool
  | .dict entries => isPlain entries
  | _ => true

/-- The tree is the conjunction of comparisons of the term, of which there is at least one. -/
def ComparesOnly (field t : Value) : Prop :=
  ∃ first rest, t = .expr (.junction .and) (first :: rest) false ∧
    ∀ x ∈ first :: rest, ∃ c operand negated, x = condition field c operand negated

/-- Every operator makes a comparison, and negation makes those of its operand. -/
theorem operandTrees_ne_nil {field : Value} (value : Value) (negated : Bool)
    (h : isOperand value = true) : operandTrees field value negated ≠ [] := by
  cases value with
  | dict entries =>
      rw [operandTrees]
      split
      · exact List.cons_ne_nil _ _
      · next hplain =>
          rw [isOperand, Bool.eq_false_iff.2 hplain, Bool.false_or] at h
          match entries with
          | [] => exact absurd rfl hplain
          | (operator, operand) :: rest =>
              cases operator with
              | text name =>
                  rw [areOperators, Bool.and_eq_true] at h
                  rw [operatorTrees]
                  refine List.append_ne_nil_of_left_ne_nil ?_ _
                  cases hneg : name == negation with
                  | true =>
                      rw [hneg, if_pos rfl, Bool.and_eq_true] at h
                      exact operandTrees_ne_nil operand (!negated) h.1.2
                  | false =>
                      rw [hneg, if_neg Bool.false_ne_true] at h
                      obtain ⟨c, hc⟩ := Option.isSome_iff_exists.1 h.1
                      rw [if_neg Bool.false_ne_true, hc]
                      exact List.cons_ne_nil _ _
              | _ => cases h
  | _ => exact List.cons_ne_nil _ _

/-! ## Filters of one field -/

theorem junction?_of_not_isOperator (h : isOperator key = false) : junction? key = none := by
  rw [Option.eq_none_iff_forall_ne_some]
  intro j hj
  rw [junction?_eq_some.1 hj] at h
  cases j <;> cases h

theorem ne_negation_of_not_isOperator (h : isOperator key = false) :
    (key == negation) = false := by
  rw [beq_eq_false_iff_ne]
  rintro rfl
  cases h

/-- A filter of one field is the conjunction of what is asked of the field. -/
theorem read_entry_eq_ok {r : Reader} {v t : Value} (h : isOperator key = false) :
    (r.read (.dict [(.text key, v)])).1 = .ok t ↔
      (isOperand v = true ∧ ((1 + operandReach v : Nat) : Int) ≤ r.limit) ∧
        t = .expr (.junction .and) (operandTrees (fieldTerm r.settings key) v false) false := by
  have hjunction := junction?_of_not_isOperator h
  have hnegation := ne_negation_of_not_isOperator h
  have hlegal : grammatical [(.text key, v)] = isOperand v := by
    rw [grammatical, grammatical, Bool.and_true, isEntry.eq_def, hjunction]
    simp only []
    rw [hnegation, if_neg Bool.false_ne_true, h, Bool.not_false, Bool.true_and]
  have hdepth : nesting [(.text key, v)] = 1 + operandReach v := by
    rw [nesting, reach, reach, entryReach.eq_def, hjunction]
    simp only []
    rw [hnegation, if_neg Bool.false_ne_true, Nat.max_zero]
  have htrees : tree r.settings (.dict [(.text key, v)])
      = .expr (.junction .and) (operandTrees (fieldTerm r.settings key) v false) false := by
    rw [tree, trees, trees, List.append_nil, entryTrees.eq_def, hjunction]
    simp only []
    rw [hnegation, if_neg Bool.false_ne_true]
  rw [read_eq_ok, htrees]
  refine and_congr_left fun _ => ?_
  constructor
  · rintro (hfalse | ⟨entries, hentries, hgrammatical, hfits⟩)
    · cases hfalse
    · cases hentries
      rw [hlegal] at hgrammatical
      rw [hdepth] at hfits
      exact ⟨hgrammatical, hfits⟩
  · rintro ⟨hoperand, hfits⟩
    exact .inr ⟨_, rfl, hlegal.trans hoperand, hdepth ▸ hfits⟩

theorem operandTrees_of_isLiteral {v : Value} (h : isLiteral v = true) (field : Value) :
    isOperand v = true ∧ operandReach v = 0 ∧
      operandTrees field v false = [condition field .equal v false] := by
  cases v with
  | dict entries =>
      rw [isLiteral] at h
      refine ⟨?_, operatorsReach_of_isPlain h, ?_⟩
      · rw [isOperand, h, Bool.true_or]
      · rw [operandTrees, if_pos h]
  | _ => exact ⟨rfl, rfl, rfl⟩

theorem comparesOnly_of_read {r : Reader} {v t : Value} (h : isOperator key = false)
    (ht : (r.read (.dict [(.text key, v)])).1 = .ok t) :
    ComparesOnly (fieldTerm r.settings key) t := by
  obtain ⟨⟨hoperand, -⟩, rfl⟩ := (read_entry_eq_ok h).1 ht
  have hsome : operandTrees (fieldTerm r.settings key) v false ≠ [] :=
    operandTrees_ne_nil v false hoperand
  obtain ⟨first, rest, htrees⟩ := List.exists_cons_of_ne_nil hsome
  rw [htrees]
  refine ⟨first, rest, rfl, ?_⟩
  rw [← htrees]
  exact mem_operandTrees (fun c operand negated => ⟨c, operand, negated, rfl⟩) v false

/-- The key of a name after an entity of the settings stands for that name's field, and what any key
stands for is written as that key. So a filter of one such key compares the field with its value, or
makes all the comparisons that its value asks for of that field; and the other way round, whatever
is compared in a tree of a filter of one key is what the key spells, and a field only if the key has
an entity of the settings, a dot and a name.

The entity must not have a dot of its own and must not make an operator of the key. -/
theorem read_field_of_key (r : Reader) :
    (∀ (entity name : String) (v : Value),
      r.settings.metaEntity = .text entity ∨ r.settings.taxonomyEntity = .text entity →
      '.' ∉ entity.toList → isOperator entity = false → name ≠ "" →
      (isLiteral v = true → 1 ≤ r.limit →
        (r.read (.dict [(.text (entity ++ "." ++ name), v)])).1 = .ok (.expr (.junction .and)
          [.expr (.comparison .equal) [.field (.text entity) (.text name), .literal v] false]
          false)) ∧
      ∀ t, (r.read (.dict [(.text (entity ++ "." ++ name), v)])).1 = .ok t →
        ComparesOnly (.field (.text entity) (.text name)) t) ∧
    ∀ (key : String) (v t : Value), isOperator key = false →
      (r.read (.dict [(.text key, v)])).1 = .ok t →
      ∃ term, ComparesOnly term t ∧ term.fieldKey? = some key ∧
        ∀ e n, term = .field e n → ∃ entity name, e = .text entity ∧ n = .text name ∧
          (r.settings.metaEntity = .text entity ∨ r.settings.taxonomyEntity = .text entity) ∧
          name ≠ "" ∧ key = entity ++ "." ++ name := by
  constructor
  · intro entity name v hentity hdot hoperator hname
    have hkey := isOperator_append hoperator name
    have hfield := fieldTerm_of_names (names_append hdot hname) hentity
    constructor
    · intro hliteral hlimit
      obtain ⟨hoperand, hreach, htrees⟩ :=
        operandTrees_of_isLiteral hliteral (.field (.text entity) (.text name))
      refine (read_entry_eq_ok hkey).2 ⟨⟨hoperand, ?_⟩, ?_⟩
      · rw [hreach]
        exact_mod_cast hlimit
      · rw [hfield, htrees]
        rfl
    · intro t ht
      rw [← hfield]
      exact comparesOnly_of_read hkey ht
  · intro key v t hkey ht
    refine ⟨_, comparesOnly_of_read hkey ht, fieldKey?_fieldTerm r.settings key, ?_⟩
    intro e n hfield
    have hterm := isFieldTerm_fieldTerm r.settings key
    rw [hfield] at hterm
    cases hterm with
    | @ofEntity entity name hnames hentity =>
        refine ⟨entity, name, rfl, rfl, hentity, ?_, hnames.eq_append⟩
        rintro rfl
        exact hnames.named rfl

/-- What comes after the first dot is the name, with all dots that it has. -/
theorem read_field_of_key_with_dots :
    let r : Reader := { settings := { metaEntity := .text "cf", taxonomyEntity := .text "terms" } }
    let v := Value.text "red"
    let field := Value.field (.text "cf") (.text "color.dark")
    let equals := Value.expr (.comparison .equal) [field, .literal v] false
    let t := Value.expr (.junction .and) [equals] false
    (r.read (.dict [(.text "cf.color.dark", v)])).1 = .ok t ∧ ComparesOnly field t ∧
      ∃ term, ComparesOnly term t ∧ term.fieldKey? = some "cf.color.dark" := by
  intro r v field equals t
  obtain ⟨hkeys, hterms⟩ := read_field_of_key r
  obtain ⟨hliteral, honly⟩ := hkeys "cf" "color.dark" v (.inl rfl) (by decide) (by decide)
    (by decide)
  have hread := hliteral rfl (by decide)
  obtain ⟨term, hcompares, hkey, -⟩ := hterms "cf.color.dark" v t (by decide) hread
  exact ⟨hread, honly t hread, term, hcompares, hkey⟩

/-- An entity may start with a dollar sign as far as the settings are concerned. -/
theorem not_read_field_of_key :
    ¬ ∀ (r : Reader) (entity name : String) (v : Value),
      r.settings.checked = .ok r.settings →
      r.settings.metaEntity = .text entity ∨ r.settings.taxonomyEntity = .text entity →
      name ≠ "" →
      ∃ c operand negated, (r.read (.dict [(.text (entity ++ "." ++ name), v)])).1 =
        .ok (.expr (.junction .and)
          [condition (.field (.text entity) (.text name)) c operand negated] false) := by
  intro hreads
  let r : Reader := { settings := { metaEntity := .text "$m" } }
  have hchecked : r.settings.checked = .ok r.settings := by
    cbv
  have hrefused : (r.read (.dict [(.text "$m.price", .int 5)])).1
      = .error (.unknownOperator (.text "$m.price")) := by
    rfl
  obtain ⟨c, operand, negated, hread⟩ :=
    hreads r "$m" "price" (.int 5) hchecked (.inl rfl) (by decide)
  have hkey : "$m" ++ "." ++ "price" = "$m.price" := by
    decide
  rw [hkey, hrefused] at hread
  cases hread

end PostQuery.Filter
