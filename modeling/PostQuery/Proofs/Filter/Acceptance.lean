import PostQuery.Proofs.Filter.Reading
import PostQuery.Proofs.Tree.Meaning

/-!
# What a reader accepts

`Reading.lean` settles the reader on dictionaries. A whole reading has three ways to go before it
gets there: a value that counts as false is the empty conjunction whatever its kind, so that not
even a limit below one refuses it; any other value that is no dictionary is refused; and a
dictionary is read from level zero, whatever level the reader was left on.

The last of these is why a reader's answer is a function of its limit and its settings, and `tree`
shows that the limit decides only whether there is one.
-/

namespace PostQuery.Filter

/-- The values that a reader with the limit takes: those that count as false, and the filters nested
no deeper than the limit. -/
def Acceptable (limit : Int) (v : Value) : Prop :=
  v.truthy = false ∨
    ∃ entries, v = .dict entries ∧ grammatical entries = true ∧ (nesting entries : Int) ≤ limit

/-- The keys of every dictionary in the value that is read are texts. -/
def isTextKeyed : Value → Bool
  | .dict entries => textKeyed entries
  | _ => true

theorem fits_zero {limit : Int} {depth : Nat} : Fits limit 0 depth ↔ (depth : Int) ≤ limit := by
  rw [Fits, Nat.zero_add]

theorem readDict_settles (rules : Rules) (entries : Dict) :
    (grammatical entries = true → Fits rules.limit 0 (nesting entries) →
      readDict rules entries = (.ok (tree rules.settings (.dict entries)), 0)) ∧
    (¬(grammatical entries = true ∧ Fits rules.limit 0 (nesting entries)) →
      ∃ f left, readDict rules entries = (.error f, left) ∧
        (textKeyed entries = true → f.class? = some .invalidFilter)) := by
  have hentries : Settles rules.limit 0 _ _ _ _ _ :=
    Settles.deeper fun hlt => readEntries_settles entries hlt
  have h := hentries.map fun conditions => Value.expr (.junction .and) conditions false
  exact ⟨h.returns, h.refuses⟩

theorem eq_nil_of_falsy {entries : Dict} (h : (Value.dict entries).truthy = false) :
    entries = [] := by
  cases entries with
  | nil => rfl
  | cons e rest => cases h

theorem read_of_falsy {r : Reader} {v : Value} (h : v.truthy = false) :
    r.read v = (.ok (tree r.settings v), r) := by
  rw [Reader.read.eq_def, h]
  cases v with
  | dict entries =>
      rw [eq_nil_of_falsy h]
      rfl
  | _ => rfl

theorem read_dict {r : Reader} {entries : Dict} (h : (Value.dict entries).truthy = true) :
    r.read (.dict entries)
      = ((readDict ⟨r.limit, r.settings⟩ entries).1,
          { r with level := (readDict ⟨r.limit, r.settings⟩ entries).2 }) := by
  rw [Reader.read.eq_def, h]
  rfl

theorem read_of_not_dict {r : Reader} {v : Value} (h : v.truthy = true) (hd : isDict v = false) :
    r.read v = (.error (.notDict v), r) := by
  rw [Reader.read.eq_def, h]
  cases v with
  | dict entries => cases hd
  | _ => rfl

theorem read_of_acceptable {r : Reader} {v : Value} (h : Acceptable r.limit v) :
    (r.read v).1 = .ok (tree r.settings v) := by
  obtain hfalse | ⟨entries, rfl, hlegal, hdepth⟩ := h
  · rw [read_of_falsy hfalse]
  · cases htrue : (Value.dict entries).truthy with
    | false => rw [read_of_falsy htrue]
    | true =>
        rw [read_dict htrue,
          (readDict_settles ⟨r.limit, r.settings⟩ entries).1 hlegal (fits_zero.2 hdepth)]

theorem read_of_not_acceptable {r : Reader} {v : Value} (h : ¬Acceptable r.limit v) :
    ∃ f, (r.read v).1 = .error f ∧ (isTextKeyed v = true → f.class? = some .invalidFilter) := by
  have htrue : v.truthy = true := by
    cases hv : v.truthy with
    | true => rfl
    | false => exact absurd (Or.inl hv) h
  cases hd : isDict v with
  | false => exact ⟨_, by rw [read_of_not_dict htrue hd], fun _ => rfl⟩
  | true =>
      cases v with
      | dict entries =>
          obtain ⟨f, left, hrun, hclean⟩ :=
            (readDict_settles ⟨r.limit, r.settings⟩ entries).2 fun hno =>
              h (.inr ⟨entries, rfl, hno.1, fits_zero.1 hno.2⟩)
          exact ⟨f, by rw [read_dict htrue, hrun], hclean⟩
      | _ => cases hd

/-! What is read is a tree, since conditions are trees, and so are groups and opposites of trees. -/

theorem isTree_condition (field : Value) (c : Comparison) (operand : Value) (negated : Bool) :
    (condition field c operand negated).isTree = true := by
  cases c <;> rfl

theorem keptByReading_isTree (s : Settings) : KeptByReading s (Value.isTree · = true) where
  condition key := isTree_condition (fieldTerm s key)
  group _ _ h := by
    rw [Value.isTree, Value.areTrees_iff]
    exact h
  negate _ h := isTree_negate h

theorem isTree_trees (s : Settings) (entries : List (Value × Value))
    (hlegal : grammatical entries = true) : ∀ x ∈ trees s entries, x.isTree = true :=
  (keptByReading_isTree s).mem_trees entries hlegal

theorem isTree_tree {limit : Int} {v : Value} (s : Settings) (h : Acceptable limit v) :
    (tree s v).isTree = true := by
  cases v with
  | dict entries =>
      obtain hfalse | ⟨entries', hsame, hlegal, -⟩ := h
      · rw [eq_nil_of_falsy hfalse]
        rfl
      · cases hsame
        exact (keptByReading_isTree s).group .and _ (isTree_trees s entries hlegal)
  | _ => rfl

theorem read_eq_ok {r : Reader} {v t : Value} :
    (r.read v).1 = .ok t ↔ Acceptable r.limit v ∧ t = tree r.settings v := by
  by_cases h : Acceptable r.limit v
  · simp [read_of_acceptable h, h, eq_comm]
  · obtain ⟨f, hf, -⟩ := read_of_not_acceptable h
    simp [hf, h]

/-- A reader gives a tree for exactly the values that count as false and the filters within its
limit, and nothing but trees. Everything else it refuses, as an invalid filter wherever the keys it
reads are texts, and readers that differ in their limits agree on every filter that both of them
take. -/
theorem read_accepts_exactly (r : Reader) (v : Value) :
    ((∃ t, (r.read v).1 = .ok t) ↔
      v.truthy = false ∨ ∃ entries, v = .dict entries ∧ grammatical entries = true ∧
        (nesting entries : Int) ≤ r.limit) ∧
      (isTextKeyed v = true → ∀ f, (r.read v).1 = .error f → f.class? = some .invalidFilter) ∧
      (∀ limit level t t', (r.read v).1 = .ok t →
        (Reader.read { r with limit, level } v).1 = .ok t' → t = t') ∧
      ∀ t, (r.read v).1 = .ok t → t.isTree = true := by
  refine ⟨?_, fun hkeys f hf => ?_, fun limit level t t' ht ht' => ?_, fun t ht => ?_⟩
  · simp only [read_eq_ok, exists_and_left, exists_eq, and_true]
    exact Iff.rfl
  · have hno : ¬Acceptable r.limit v := fun h => by
      rw [read_of_acceptable h] at hf
      cases hf
    obtain ⟨f', hf', hclass⟩ := read_of_not_acceptable hno
    rw [hf] at hf'
    cases hf'
    exact hclass hkeys
  · rw [(read_eq_ok.1 ht).2, (read_eq_ok.1 ht').2]
  · obtain ⟨hacceptable, rfl⟩ := read_eq_ok.1 ht
    exact isTree_tree r.settings hacceptable

/-- A field under one negation has two levels: one too many for a limit of one. -/
theorem read_accepts_exactly_at_limit :
    let v := Value.dict [(.text "price", .dict [(.text "$not", .dict [(.text "$gt", .int 5)])])]
    (∃ t, (({ limit := 2 } : Reader).read v).1 = .ok t) ∧
      (isTextKeyed v = true ∧
        ∀ f, (({ limit := 1 } : Reader).read v).1 = .error f → f.class? = some .invalidFilter) ∧
      ∃ t t', (({ limit := 2 } : Reader).read v).1 = .ok t ∧
        (({ limit := 9, level := 3 } : Reader).read v).1 = .ok t' ∧ t = t' ∧ t.isTree = true := by
  intro v
  refine ⟨(read_accepts_exactly _ v).1.2 (.inr ⟨_, rfl, by decide, by decide⟩),
    ⟨by decide, (read_accepts_exactly _ v).2.1 (by decide)⟩, ?_⟩
  obtain ⟨-, -, hagree, htree⟩ := read_accepts_exactly { limit := 2 } v
  exact ⟨_, _, rfl, rfl, hagree 9 3 _ _ rfl rfl, htree _ rfl⟩

end PostQuery.Filter
