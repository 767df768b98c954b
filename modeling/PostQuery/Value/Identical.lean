import PostQuery.Value.Basic

/-!
# When two values are one

Two values are identical if they are written alike, part by part. This is less than equality, which
looks through the kinds of numbers and the order of sets, but it is what members of enumerations and
objects are equal by, and it never fails.
-/

namespace PostQuery.Value

mutual

/-- The two values are written alike. -/
def identical : Value → Value → Bool
  | .null, .null => true
  | .bool a, .bool b => a = b
  | .int m, .int n => m = n
  | .float x, .float y => x = y
  | .decimal d, .decimal d' => d = d'
  | .text s, .text t => s = t
  | .bytes a, .bytes b | .buffer a, .buffer b => a = b
  | .dateTime d t o, .dateTime d' t' o' => d = d' ∧ t = t' ∧ o = o'
  | .date d, .date d' => d = d'
  | .time t, .time t' => t = t'
  | .list xs, .list ys | .tuple xs, .tuple ys | .set xs, .set ys | .fixedSet xs, .fixedSet ys =>
    identicalAll xs ys
  | .dict xs, .dict ys => identicalEntries xs ys
  | .again i b, .again j c => i = j ∧ b = c
  | .junction a, .junction b => a = b
  | .comparison a, .comparison b => a = b
  | .mode a, .mode b => a = b
  | .context a, .context b => a = b
  | .member e n v, .member e' n' v' => decide (e = e' ∧ n = n') && identical v v'
  | .object o, .object o' => o = o'
  | .literal v, .literal v' | .variable v, .variable v' => identical v v'
  | .field e n, .field e' n' => identical e e' && identical n n'
  | .expr k ts b, .expr k' ts' b' => identical k k' && identicalAll ts ts' && decide (b = b')
  | _, _ => false

def identicalAll : List Value → List Value → Bool
  | [], [] => true
  | v :: vs, w :: ws => identical v w && identicalAll vs ws
  | _, _ => false

def identicalEntries : List (Value × Value) → List (Value × Value) → Bool
  | [], [] => true
  | (k, v) :: es, (k', v') :: es' => identical k k' && identical v v' && identicalEntries es es'
  | _, _ => false

end

mutual

theorem eq_of_identical {v w : Value} (h : identical v w = true) : v = w := by
  rw [identical.eq_def] at h
  split at h
  -- One case for each kind of value, in the order of the definition.
  case h_1 => rfl
  case h_12 | h_13 | h_14 | h_15 => rw [eq_of_identicalAll h]
  case h_16 => rw [eq_of_identicalEntries h]
  case h_22 =>
    rw [Bool.and_eq_true, decide_eq_true_eq] at h
    obtain ⟨⟨rfl, rfl⟩, hvalue⟩ := h
    rw [eq_of_identical hvalue]
  case h_24 | h_25 => rw [eq_of_identical h]
  case h_26 =>
    rw [Bool.and_eq_true] at h
    rw [eq_of_identical h.1, eq_of_identical h.2]
  case h_27 =>
    rw [Bool.and_eq_true, Bool.and_eq_true, decide_eq_true_eq] at h
    rw [eq_of_identical h.1.1, eq_of_identicalAll h.1.2, h.2]
  case h_28 => cases h
  all_goals simp only [of_decide_eq_true h]

theorem eq_of_identicalAll {vs ws : List Value} (h : identicalAll vs ws = true) : vs = ws := by
  match vs, ws with
  | [], [] => rfl
  | v :: vs, w :: ws =>
      rw [identicalAll, Bool.and_eq_true] at h
      rw [eq_of_identical h.1, eq_of_identicalAll h.2]

theorem eq_of_identicalEntries {es es' : List (Value × Value)}
    (h : identicalEntries es es' = true) : es = es' := by
  match es, es' with
  | [], [] => rfl
  | (k, v) :: es, (k', v') :: es' =>
      rw [identicalEntries, Bool.and_eq_true, Bool.and_eq_true] at h
      rw [eq_of_identical h.1.1, eq_of_identical h.1.2, eq_of_identicalEntries h.2]

end

mutual

theorem identical_self (v : Value) : identical v v = true := by
  cases v with
  | list items | tuple items | set items | fixedSet items =>
      rw [identical, identicalAll_self items]
  | dict entries => rw [identical, identicalEntries_self entries]
  | member enumeration name value => simp [identical, identical_self value]
  | literal value => rw [identical, identical_self value]
  | «variable» key => rw [identical, identical_self key]
  | field entity name => rw [identical, identical_self entity, identical_self name]; rfl
  | expr kind terms negated =>
      simp [identical, identical_self kind, identicalAll_self terms]
  | _ => simp [identical]

theorem identicalAll_self (vs : List Value) : identicalAll vs vs = true := by
  match vs with
  | [] => rfl
  | v :: vs => rw [identicalAll, identical_self v, identicalAll_self vs]; rfl

theorem identicalEntries_self (es : List (Value × Value)) : identicalEntries es es = true := by
  match es with
  | [] => rfl
  | (k, v) :: es =>
      rw [identicalEntries, identical_self k, identical_self v, identicalEntries_self es]; rfl

end

theorem identical_iff {v w : Value} : identical v w = true ↔ v = w :=
  ⟨eq_of_identical, fun h => h ▸ identical_self v⟩

instance : DecidableEq Value := fun _ _ => decidable_of_iff _ identical_iff

end PostQuery.Value
