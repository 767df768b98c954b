import PostQuery.Proofs.Clause.Built

/-!
# Which values have a normal form

A single value has a normal form if it has a text, and a sequence has one if all of its items do; a
sequence within a sequence never does. A member of an enumeration counts for the value it stands
for, at any depth. A dictionary or a set is refused before its text is asked for, which refuses
nothing else, since those of the built-in classes have none.

What comes out is one of five kinds of stored value, or a list of those, and a sequence keeps its
length. So whatever an operator demands of the size of a value can be asked of the value as it was
written, and a normal form is its own normal form.
-/

namespace PostQuery

theorem mapM_eq_ok {ε α β : Type} {f : α → Except ε β} {xs : List α} {ys : List β} :
    xs.mapM f = .ok ys ↔ List.Forall₂ (fun x y => f x = .ok y) xs ys := by
  induction xs generalizing ys with
  | nil =>
      rw [List.mapM_nil, List.forall₂_nil_left_iff]
      constructor
      · intro h
        cases h
        rfl
      · rintro rfl
        rfl
  | cons x xs ih =>
      rw [List.mapM_cons, List.forall₂_cons_left_iff]
      simp only [bind_eq_ok, ih]
      constructor
      · rintro ⟨y, hy, ys, hys, h⟩
        cases h
        exact ⟨y, ys, hy, hys, rfl⟩
      · rintro ⟨y, ys, hy, hys, rfl⟩
        exact ⟨y, hy, ys, hys, rfl⟩

theorem exists_forall₂_iff {α β : Type} {R : α → β → Prop} {xs : List α} :
    (∃ ys, List.Forall₂ R xs ys) ↔ ∀ x ∈ xs, ∃ y, R x y := by
  induction xs with
  | nil => simp
  | cons x xs ih =>
      rw [List.forall_mem_cons, ← ih]
      simp only [List.forall₂_cons_left_iff]
      constructor
      · rintro ⟨_, y, ys, hy, hys, -⟩
        exact ⟨⟨y, hy⟩, ys, hys⟩
      · rintro ⟨⟨y, hy⟩, ys, hys⟩
        exact ⟨_, y, ys, hy, hys, rfl⟩

/-- A list is gone through up to the first item with an error. -/
theorem mapM_eq_error {ε α β : Type} {f : α → Except ε β} {xs : List α} {e : ε} :
    xs.mapM f = .error e ↔ ∃ before x after, xs = before ++ x :: after ∧
      (∀ z ∈ before, ∃ y, f z = .ok y) ∧ f x = .error e := by
  constructor
  · intro h
    induction xs with
    | nil => cases h
    | cons x xs ih =>
        rw [List.mapM_cons] at h
        cases hx : f x with
        | error e' =>
            rw [hx] at h
            cases h
            exact ⟨[], x, xs, rfl, by simp, hx⟩
        | ok y =>
            rw [hx] at h
            cases hxs : xs.mapM f with
            | ok ys =>
                rw [hxs] at h
                cases h
            | error e' =>
                rw [hxs] at h
                cases h
                obtain ⟨before, z, after, rfl, hbefore, hz⟩ := ih hxs
                refine ⟨x :: before, z, after, rfl, ?_, hz⟩
                exact List.forall_mem_cons.2 ⟨⟨y, hx⟩, hbefore⟩
  · rintro ⟨before, x, after, rfl, hbefore, hx⟩
    obtain ⟨ys, hys⟩ := exists_forall₂_iff.2 hbefore
    rw [List.mapM_append, mapM_eq_ok.2 hys, List.mapM_cons, hx]
    rfl

theorem forall_mem_of_forall₂ {α β : Type} {R : α → β → Prop} {p : β → Prop} {xs : List α}
    {ys : List β} (h : List.Forall₂ R xs ys) (hp : ∀ x y, R x y → p y) : ∀ y ∈ ys, p y := by
  induction h with
  | nil => simp
  | cons hxy _ ih => exact List.forall_mem_cons.2 ⟨hp _ _ hxy, ih⟩

namespace Value

/-- The value has a text, or stands for one that has. -/
def isScalar : Value → Bool
  | .member _ _ v => isScalar v
  | .text _ | .bool _ | .int _ | .float _ | .decimal _ => true
  | .dateTime .. | .date _ | .time _ => true
  | .junction _ | .comparison _ | .mode _ | .context _ => true
  | .object o => o.text.isSome
  | _ => false

/-- The value is scalar, or a sequence of scalar values. -/
def isNormalizable (v : Value) : Bool :=
  match v.sequence? with
  | some items => items.all isScalar
  | none => v.isScalar

/-- The value is of a kind that arguments can hold. -/
def isStored : Value → Bool
  | .text _ | .bool _ | .int _ | .float _ | .decimal _ => true
  | _ => false

/-- The value is a list of stored values. -/
def isStoredList : Value → Bool
  | .list items => items.all isStored
  | _ => false

theorem exists_normalText (v : Value) : (∃ s, v.normalText = .ok s) ↔ v.isScalar = true := by
  cases v with
  | member _ _ w =>
      rw [normalText, isScalar]
      exact exists_normalText w
  | object o => cases htext : o.text <;> simp [normalText, isScalar, htext]
  | _ => simp [normalText, isScalar]

theorem isScalar_opened (v : Value) : v.opened.isScalar = v.isScalar := by
  cases v <;> rfl

theorem exists_scalar (v : Value) : (∃ w, v.scalar = .ok w) ↔ v.isScalar = true := by
  have htext : ∀ o : Value, (∃ w, o.normalText.map Value.text = .ok w) ↔ o.isScalar = true := by
    intro o
    rw [← exists_normalText]
    simp only [map_eq_ok]
    constructor
    · rintro ⟨_, s, hs, -⟩
      exact ⟨s, hs⟩
    · rintro ⟨s, hs⟩
      exact ⟨_, s, hs, rfl⟩
  rw [scalar, ← isScalar_opened]
  split
  all_goals first | exact htext _ | simp_all [isScalar]

theorem isStored_of_scalar {v w : Value} (h : v.scalar = .ok w) : w.isStored = true := by
  rw [scalar] at h
  split at h
  all_goals first | (cases h; rfl) | (obtain ⟨s, -, rfl⟩ := map_eq_ok.1 h; rfl)

theorem isScalar_of_isCollection {v : Value} (h : v.isCollection = true) : v.isScalar = false := by
  cases v <;> first | rfl | cases h

theorem exists_normal (v : Value) : (∃ w, v.normal = .ok w) ↔ v.isNormalizable = true := by
  rw [normal, isNormalizable]
  cases v.sequence? with
  | none =>
      dsimp only
      cases hcollection : v.isCollection with
      | false => exact exists_scalar v
      | true => simp [isScalar_of_isCollection hcollection]
  | some items =>
      rw [List.all_eq_true]
      simp only [← exists_scalar, ← exists_forall₂_iff, map_eq_ok, mapM_eq_ok]
      constructor
      · rintro ⟨_, ws, hws, -⟩
        exact ⟨ws, hws⟩
      · rintro ⟨ws, hws⟩
        exact ⟨_, ws, hws, rfl⟩

theorem scalar_of_normal {v w : Value} (hsingle : v.sequence? = none) (h : v.normal = .ok w) :
    v.scalar = .ok w := by
  rw [normal, hsingle] at h
  dsimp only at h
  split at h
  · cases h
  · exact h

/-- A sequence comes out as a list of the same length, and a single value as a single one. -/
theorem normal_cases {v w : Value} (h : v.normal = .ok w) :
    (∃ items ws, v.sequence? = some items ∧ w = .list ws ∧ ws.length = items.length ∧
        w.isStoredList = true) ∨
      v.sequence? = none ∧ w.isStored = true := by
  cases hv : v.sequence? with
  | some items =>
      rw [normal, hv] at h
      obtain ⟨ws, hws, rfl⟩ := map_eq_ok.1 h
      rw [mapM_eq_ok] at hws
      refine .inl ⟨items, ws, rfl, rfl, hws.length_eq.symm, ?_⟩
      rw [isStoredList, List.all_eq_true]
      exact forall_mem_of_forall₂ hws fun _ _ => isStored_of_scalar
  | none => exact .inr ⟨rfl, isStored_of_scalar (scalar_of_normal hv h)⟩

theorem sequence?_of_isStored {v : Value} (h : v.isStored = true) : v.sequence? = none := by
  cases v <;> first | rfl | cases h

theorem size?_normal {v w : Value} (h : v.normal = .ok w) : w.size? = v.size? := by
  rw [size?, size?]
  obtain ⟨items, ws, hitems, rfl, hlength, -⟩ | ⟨hnone, hstored⟩ := normal_cases h
  · rw [hitems, sequence?, Option.map_some, Option.map_some, hlength]
  · rw [hnone, sequence?_of_isStored hstored]

/-! ## Normal forms of normal forms -/

end Value

end PostQuery
