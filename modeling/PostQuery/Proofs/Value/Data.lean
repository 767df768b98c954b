import PostQuery.Proofs.Value.Calm

/-!
# Plain data

Documents hold data: scalars, lists, tuples, sets of scalars, and dictionaries whose keys are
scalars. There is nothing to spell out in data, so it is handed out as it is, and nothing that could
disturb a comparison. The one exception is a value that holds itself, which can neither be spelled
out nor be told to be compared to an end.
-/

namespace PostQuery

namespace Value

/-- The value is of a kind that has no parts. -/
def isAtomic : Value → Bool
  | .null | .bool _ | .int _ | .float _ | .text _ | .bytes _ | .dateTime .. | .date _ => true
  | _ => false

mutual

/-- The value is made of scalars alone. -/
def isData : Value → Bool
  | .list items | .tuple items => areData items
  | .set items => items.all isAtomic
  | .dict entries => areDataEntries entries
  | .again .. => true
  | v => v.isAtomic

def areData : List Value → Bool
  | [] => true
  | v :: vs => isData v && areData vs

def areDataEntries : List (Value × Value) → Bool
  | [] => true
  | (k, v) :: es => k.isAtomic && isData v && areDataEntries es

end

mutual

/-- Some part of the value is a list or a dictionary inside itself. -/
def holdsItself : Value → Bool
  | .list items | .tuple items => someHoldsItself items
  | .dict entries => someEntryHoldsItself entries
  | .again .. => true
  | _ => false

def someHoldsItself : List Value → Bool
  | [] => false
  | v :: vs => holdsItself v || someHoldsItself vs

def someEntryHoldsItself : List (Value × Value) → Bool
  | [] => false
  | (_, v) :: es => holdsItself v || someEntryHoldsItself es

end

theorem areData_iff {vs : List Value} : areData vs = true ↔ ∀ v ∈ vs, v.isData = true := by
  induction vs with
  | nil => simp [areData]
  | cons v vs ih => rw [areData, Bool.and_eq_true, List.forall_mem_cons, ih]

theorem areDataEntries_iff {es : List (Value × Value)} :
    areDataEntries es = true ↔ ∀ e ∈ es, e.1.isAtomic = true ∧ e.2.isData = true := by
  induction es with
  | nil => simp [areDataEntries]
  | cons e es ih =>
      rw [areDataEntries, Bool.and_eq_true, Bool.and_eq_true, List.forall_mem_cons, ih]

theorem isData_of_isAtomic {v : Value} (h : v.isAtomic = true) : v.isData = true := by
  cases v <;> first | rfl | cases h

theorem isKey_of_isAtomic {v : Value} (h : v.isAtomic = true) : v.IsKey := by
  cases v <;> first | rfl | cases h

theorem spelledOut_of_isAtomic {v : Value} (h : v.isAtomic = true) : spelledOut v = .ok v := by
  cases v <;> first | rfl | cases h

mutual

/-- Data is spelled out as it stands, unless it holds itself. -/
theorem spelledOut_of_isData (v : Value) (h : v.isData = true) :
    spelledOut v = if v.holdsItself then .error (.endless false) else .ok v := by
  cases v with
  | list items | tuple items =>
      rw [spelledOut, spelledOutAll_of_areData items h, holdsItself]
      split <;> rfl
  | dict entries =>
      rw [spelledOut, spelledOutEntries_of_areDataEntries entries h, holdsItself]
      split <;> rfl
  | again mark isDict => rfl
  | set items => rfl
  | null | bool | int | float | text | bytes | dateTime | date => rfl
  | _ => cases h

theorem spelledOutAll_of_areData (vs : List Value) (h : areData vs = true) :
    spelledOutAll vs = if someHoldsItself vs then .error (.endless false) else .ok vs := by
  cases vs with
  | nil => rfl
  | cons v vs =>
      rw [areData, Bool.and_eq_true] at h
      rw [spelledOutAll, spelledOut_of_isData v h.1, spelledOutAll_of_areData vs h.2,
        someHoldsItself]
      cases v.holdsItself <;> cases someHoldsItself vs <;> rfl

theorem spelledOutEntries_of_areDataEntries (es : List (Value × Value))
    (h : areDataEntries es = true) :
    spelledOutEntries es
      = if someEntryHoldsItself es then .error (.endless false) else .ok es := by
  match es with
  | [] => rfl
  | (k, v) :: es =>
      rw [areDataEntries, Bool.and_eq_true, Bool.and_eq_true] at h
      rw [spelledOutEntries, spelledOut_of_isAtomic h.1.1, spelledOut_of_isData v h.1.2,
        spelledOutEntries_of_areDataEntries es h.2, someEntryHoldsItself]
      have hkey : k.asKey = .ok k := asKey_eq_ok.2 ⟨isKey_of_isAtomic h.1.1, rfl⟩
      cases v.holdsItself <;> cases someEntryHoldsItself es <;>
        simp [bind, Except.bind, pure, Except.pure, hkey]

end

mutual

/-- Nothing in data disturbs a comparison, unless it holds itself. -/
theorem isCalm_of_isData (v : Value) (h : v.isData = true) (hself : v.holdsItself = false) :
    v.isCalm = true := by
  cases v with
  | list items | tuple items => exact areCalm_of_areData items h hself
  | dict entries => exact areCalmEntries_of_areDataEntries entries h hself
  | again mark isDict => cases hself
  | null | bool | int | float | text | bytes | dateTime | date | set => rfl
  | _ => cases h

theorem areCalm_of_areData (vs : List Value) (h : areData vs = true)
    (hself : someHoldsItself vs = false) : areCalm vs = true := by
  cases vs with
  | nil => rfl
  | cons v vs =>
      rw [areData, Bool.and_eq_true] at h
      rw [someHoldsItself, Bool.or_eq_false_iff] at hself
      rw [areCalm, isCalm_of_isData v h.1 hself.1, areCalm_of_areData vs h.2 hself.2]
      rfl

theorem areCalmEntries_of_areDataEntries (es : List (Value × Value))
    (h : areDataEntries es = true) (hself : someEntryHoldsItself es = false) :
    areCalmEntries es = true := by
  match es with
  | [] => rfl
  | (k, v) :: es =>
      rw [areDataEntries, Bool.and_eq_true, Bool.and_eq_true] at h
      rw [someEntryHoldsItself, Bool.or_eq_false_iff] at hself
      rw [areCalmEntries, isCalm_of_isKey (isKey_of_isAtomic h.1.1),
        isCalm_of_isData v h.1.2 hself.1, areCalmEntries_of_areDataEntries es h.2 hself.2]
      rfl

end

end Value

end PostQuery
