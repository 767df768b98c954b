import PostQuery.Proofs.Value.Cast
import PostQuery.Proofs.Value.Keys

/-!
# What equal values have in common

Equality looks through the kinds of numbers and through the offsets of moments, so values that are
equal need not be the same, nor be handed on in the same form. But they are made alike: `Resembles`
says of two equal values what they can be, one level deep. So either both have a normal form or
neither has, and both are sequences of one length or neither is one.

The normal forms of equal values are equal again, but for moments: these are equal as instants, and
their normal forms only if they read the same. The cast type is not shared at all, since it is that
of the kind of number. Where it happens to be shared, so is the field by which terms are looked up.
-/

namespace PostQuery

namespace Value

/-- The value is of a kind whose values equal nothing but themselves. -/
def isSingular : Value → Bool
  | .null | .text _ | .date _ | .time _ => true
  | .junction _ | .comparison _ | .mode _ | .context _ | .member .. | .object _ => true
  | .float x => x.isMarkedNan
  | _ => false

/-- The value has neither a text nor items that could be stored, and is no part of a tree. -/
def isMute : Value → Bool
  | .bytes _ | .buffer _ | .set _ | .fixedSet _ | .dict _ | .again .. => true
  | _ => false

/-- What two values can be that are equal. -/
inductive Resembles : Value → Value → Prop
  | itself {v : Value} (h : v.isSingular = true) : Resembles v v
  | number {v w : Value} {m : Magnitude} (hv : v.number? = some m) (hw : w.number? = some m) :
      Resembles v w
  | moment {d d' : Date} {t t' : Clock} {o o' : Option Offset} :
      Resembles (.dateTime d t o) (.dateTime d' t' o')
  | list {xs ys : List Value} (hitems : List.Forall₂ (fun x y => x.eqv y = true) xs ys) :
      Resembles (.list xs) (.list ys)
  | tuple {xs ys : List Value} (hitems : List.Forall₂ (fun x y => x.eqv y = true) xs ys) :
      Resembles (.tuple xs) (.tuple ys)
  | literal {v w : Value} (hpart : v.eqv w = true) : Resembles (.literal v) (.literal w)
  | variable {v w : Value} (hpart : v.eqv w = true) : Resembles (.variable v) (.variable w)
  | field {e e' n n' : Value} (he : e.eqv e' = true) (hn : n.eqv n' = true) :
      Resembles (.field e n) (.field e' n')
  | expr {kind kind' : Value} {terms terms' : List Value} {negated : Bool}
      (hkind : kind.eqv kind' = true)
      (hterms : List.Forall₂ (fun x y => x.eqv y = true) terms terms') :
      Resembles (.expr kind terms negated) (.expr kind' terms' negated)
  | mute {v w : Value} (hv : v.isMute = true) (hw : w.isMute = true) : Resembles v w

theorem resembles_of_equal {v w : Value} (h : equal v w = .ok true) : Resembles v w := by
  rw [equal.eq_def] at h
  -- one case for each branch of the comparison, in its order
  split at h
  case h_1 => exact .itself rfl
  case h_2 s t =>
    cases eq_of_beq (Except.ok.inj h)
    exact .itself rfl
  case h_7 => exact .moment
  case h_8 | h_9 =>
    cases of_decide_eq_true (Except.ok.inj h)
    exact .itself rfl
  case h_10 xs ys =>
    split at h
    · exact .list (equalAll_eq_ok.1 h)
    · cases h
  case h_11 xs ys => exact .tuple (equalAll_eq_ok.1 h)
  case h_17 | h_18 | h_19 | h_20 =>
    cases of_decide_eq_true (Except.ok.inj h)
    exact .itself rfl
  case h_21 =>
    obtain ⟨rfl, rfl, rfl⟩ := of_decide_eq_true (Except.ok.inj h)
    exact .itself rfl
  case h_22 =>
    cases of_decide_eq_true (Except.ok.inj h)
    exact .itself rfl
  case h_23 v v' => exact .literal (eqv_eq_true.2 h)
  case h_24 k k' => exact .variable (eqv_eq_true.2 h)
  case h_25 =>
    obtain ⟨he, hn⟩ := both_eq_ok.1 h
    exact .field (eqv_eq_true.2 he) (eqv_eq_true.2 hn)
  case h_26 =>
    obtain ⟨hkind, hrest⟩ := both_eq_ok.1 h
    obtain ⟨hterms, hnegated⟩ := both_eq_ok.1 hrest
    cases eq_of_beq (Except.ok.inj hnegated)
    exact .expr (eqv_eq_true.2 hkind) (equalAll_eq_ok.1 hterms)
  case h_27 =>
    split at h
    · cases h
    · obtain ⟨m, hm, hm'⟩ := exists_number?_of_sameNumeric h
      exact .number hm hm'
  all_goals exact .mute rfl rfl

theorem resembles_of_eqv {v w : Value} (h : v.eqv w = true) : Resembles v w := by
  rw [eqv_eq_true, same] at h
  split at h
  · next hshared =>
      rw [isShared.eq_def] at hshared
      split at hshared
      · rw [Bool.and_eq_true] at hshared
        cases eq_of_beq hshared.2
        exact .itself hshared.1
      · exact .mute rfl rfl
      · cases hshared
  · exact resembles_of_equal h

/-- The value is a term or a node of a tree. -/
def isTerm : Value → Bool
  | .literal _ | .variable _ | .field .. | .expr .. => true
  | _ => false

/-- What two terms can be that are equal; values that are no terms are no more than that. -/
inductive ResemblesTerm : Value → Value → Prop
  | literal {v w : Value} (hpart : v.eqv w = true) : ResemblesTerm (.literal v) (.literal w)
  | variable {v w : Value} (hpart : v.eqv w = true) : ResemblesTerm (.variable v) (.variable w)
  | field {e e' n n' : Value} (he : e.eqv e' = true) (hn : n.eqv n' = true) :
      ResemblesTerm (.field e n) (.field e' n')
  | expr {kind kind' : Value} {terms terms' : List Value} {negated : Bool}
      (hkind : kind.eqv kind' = true)
      (hterms : List.Forall₂ (fun x y => x.eqv y = true) terms terms') :
      ResemblesTerm (.expr kind terms negated) (.expr kind' terms' negated)
  | other {v w : Value} (hv : v.isTerm = false) (hw : w.isTerm = false) : ResemblesTerm v w

theorem resemblesTerm_of_eqv {v w : Value} (h : v.eqv w = true) : ResemblesTerm v w := by
  have hnumber : ∀ {u : Value} {m : Magnitude}, u.number? = some m → u.isTerm = false := by
    intro u m hu
    cases u <;> first | rfl | cases hu
  have hmute : ∀ {u : Value}, u.isMute = true → u.isTerm = false := by
    intro u hu
    cases u <;> first | rfl | cases hu
  cases resembles_of_eqv h with
  | literal hpart => exact .literal hpart
  | «variable» hpart => exact .variable hpart
  | field he hn => exact .field he hn
  | expr hkind hterms => exact .expr hkind hterms
  | number hv hw => exact .other (hnumber hv) (hnumber hw)
  | mute hv hw => exact .other (hmute hv) (hmute hw)
  | itself hself => cases v <;> first | exact .other rfl rfl | cases hself
  | moment | list | tuple => exact .other rfl rfl

/-! ## Shape -/

section

variable {v w : Value}

theorem scalar_of_isNumeric (h : v.isNumeric = true) : v.scalar = .ok v := by
  cases v <;> first | rfl | cases h

theorem isScalar_of_number? {m : Magnitude} (h : v.number? = some m) : v.isScalar = true := by
  cases v <;> first | rfl | cases h

theorem sequence?_of_number? {m : Magnitude} (h : v.number? = some m) : v.sequence? = none := by
  cases v <;> first | rfl | cases h

theorem isScalar_of_isMute (h : v.isMute = true) : v.isScalar = false := by
  cases v <;> first | rfl | cases h

theorem sequence?_of_isMute (h : v.isMute = true) : v.sequence? = none := by
  cases v <;> first | rfl | cases h

namespace Resembles

theorem isScalar_eq (h : Resembles v w) : v.isScalar = w.isScalar := by
  cases h with
  | number hv hw => rw [isScalar_of_number? hv, isScalar_of_number? hw]
  | mute hv hw => rw [isScalar_of_isMute hv, isScalar_of_isMute hw]
  | _ => rfl

/-- No number and no collection is a member in another. -/
theorem isNested_eq (h : Resembles v w) : v.isNested = w.isNested := by
  have hnumber : ∀ {u : Value} {m : Magnitude}, u.number? = some m → u.isNested = false := by
    intro u m hu
    cases u <;> first | rfl | cases hu
  have hmute : ∀ {u : Value}, u.isMute = true → u.isNested = false := by
    intro u hu
    cases u <;> first | rfl | cases hu
  cases h with
  | number hv hw => rw [hnumber hv, hnumber hw]
  | mute hv hw => rw [hmute hv, hmute hw]
  | _ => rfl

theorem size?_eq (h : Resembles v w) : v.size? = w.size? := by
  rw [size?, size?]
  cases h with
  | number hv hw => rw [sequence?_of_number? hv, sequence?_of_number? hw]
  | mute hv hw => rw [sequence?_of_isMute hv, sequence?_of_isMute hw]
  | list hitems | tuple hitems =>
      rw [sequence?, sequence?, Option.map_some, Option.map_some, hitems.length_eq]
  | _ => rfl

end Resembles

/-- What is true or false of equal items alike holds of all of them on both sides or on neither. -/
theorem all_eq_of_resembles {p : Value → Bool} (hp : ∀ x y, Resembles x y → p x = p y)
    {xs ys : List Value} (h : List.Forall₂ (fun x y => x.eqv y = true) xs ys) :
    xs.all p = ys.all p := by
  induction h with
  | nil => rfl
  | cons hxy _ ih => rw [List.all_cons, List.all_cons, hp _ _ (resembles_of_eqv hxy), ih]

/-- Of two equal values both have a normal form or neither has. -/
theorem Resembles.isNormalizable_eq (h : Resembles v w) : v.isNormalizable = w.isNormalizable := by
  rw [isNormalizable, isNormalizable]
  cases h with
  | number hv hw =>
      rw [sequence?_of_number? hv, sequence?_of_number? hw]
      exact (Resembles.number hv hw).isScalar_eq
  | mute hv hw =>
      rw [sequence?_of_isMute hv, sequence?_of_isMute hw]
      exact (Resembles.mute hv hw).isScalar_eq
  | list hitems | tuple hitems => exact all_eq_of_resembles (fun _ _ => isScalar_eq) hitems
  | _ => rfl

theorem forall₂_asList (h : v.eqv w = true) :
    List.Forall₂ (fun x y => x.eqv y = true) v.asList w.asList := by
  have hresembles := resembles_of_eqv h
  rw [asList, asList]
  cases hresembles with
  | number hv hw =>
      rw [sequence?_of_number? hv, sequence?_of_number? hw]
      exact .cons h .nil
  | mute hv hw =>
      rw [sequence?_of_isMute hv, sequence?_of_isMute hw]
      exact .cons h .nil
  | list hitems | tuple hitems => exact hitems
  | itself hself =>
      have hnone : v.sequence? = none := by
        cases v <;> first | rfl | cases hself
      rw [hnone]
      exact .cons h .nil
  | _ => exact .cons h .nil

end

/-! ## Normal forms -/

/-- Two moments read the same on the calendar and the clock, whatever their offsets are, and what a
member of an enumeration stands for equals itself, so that it is not what is not a number. -/
def SameReading : Value → Value → Prop
  | .dateTime d t _, .dateTime d' t' _ => d = d' ∧ t = t'
  | .member _ _ v, .member _ _ _ => v.eqv v = true
  | _, _ => True

/-- A member gives what it stands for, or the text of that. -/
theorem scalar_member {enumeration : Enumeration} {name : String} {v s : Value}
    (h : (Value.member enumeration name v).scalar = .ok s) : (∃ r, s = .text r) ∨ s = v := by
  rw [scalar, opened] at h
  split at h
  case h_1 | h_2 | h_3 =>
    cases h
    exact .inl ⟨_, rfl⟩
  case h_9 =>
    obtain ⟨r, -, rfl⟩ := map_eq_ok.1 h
    exact .inl ⟨r, rfl⟩
  all_goals
    cases h
    exact .inr rfl

theorem eqv_scalar {v w s t : Value} (h : v.eqv w = true) (hreading : SameReading v w)
    (hs : v.scalar = .ok s) (ht : w.scalar = .ok t) : s.eqv t = true := by
  have htext : ∀ r : String, (Value.text r).eqv (.text r) = true := by
    intro r
    rw [eqv_text, BEq.rfl]
  cases resembles_of_eqv h with
  | number hv hw =>
      rw [scalar_of_isNumeric (isNumeric_of_number? hv).1] at hs
      rw [scalar_of_isNumeric (isNumeric_of_number? hw).1] at ht
      cases hs
      cases ht
      exact h
  | moment =>
      obtain ⟨rfl, rfl⟩ := hreading
      cases hs
      cases ht
      exact htext _
  | itself hself =>
      cases v with
      | null => cases hs
      | float x =>
          cases hs
          cases ht
          exact h
      | text | date | time | junction | comparison | mode | context =>
          cases hs
          cases ht
          exact htext _
      | member e n v =>
          rw [hs] at ht
          cases ht
          obtain ⟨r, rfl⟩ | rfl := scalar_member hs
          · exact htext r
          · exact hreading
      | object o =>
          rw [hs] at ht
          cases ht
          obtain ⟨r, -, rfl⟩ := map_eq_ok.1 hs
          exact htext r
      | _ => cases hself
  | mute hv hw =>
      have hscalar := (exists_scalar v).1 ⟨s, hs⟩
      rw [isScalar_of_isMute hv] at hscalar
      cases hscalar
  | _ => cases hs

theorem forall₂_scalars {vs ws ss ts : List Value}
    (h : List.Forall₂ (fun v w => v.eqv w = true) vs ws) (hreading : List.Forall₂ SameReading vs ws)
    (hs : List.Forall₂ (fun v s => v.scalar = .ok s) vs ss)
    (ht : List.Forall₂ (fun w t => w.scalar = .ok t) ws ts) :
    List.Forall₂ (fun s t => s.eqv t = true) ss ts := by
  induction h generalizing ss ts with
  | nil =>
      cases hs
      cases ht
      exact .nil
  | cons hvw _ ih =>
      cases hs with
      | cons hs hss =>
          cases ht with
          | cons ht hts =>
              cases hreading with
              | cons hreading hreadings =>
                  exact .cons (eqv_scalar hvw hreading hs ht) (ih hreadings hss hts)

theorem eqv_list {xs ys : List Value} (h : List.Forall₂ (fun x y => x.eqv y = true) xs ys) :
    (Value.list xs).eqv (.list ys) = true := by
  refine eqv_of_equal ?_
  rw [equal, beq_iff_eq.2 h.length_eq, if_pos rfl]
  exact equalAll_eq_ok.2 h

section

variable {v w s t : Value} (h : v.eqv w = true)
  (hreading : List.Forall₂ SameReading v.asList w.asList) (hs : v.normal = .ok s)
  (ht : w.normal = .ok t)

include h hreading hs ht

theorem forall₂_normal : List.Forall₂ (fun s t => s.eqv t = true) s.asList t.asList :=
  forall₂_scalars (forall₂_asList h) hreading (scalars_of_normal hs) (scalars_of_normal ht)

/-- The normal forms of equal values are equal if all moments in them read the same. -/
theorem eqv_normal : s.eqv t = true := by
  have hitems := forall₂_normal h hreading hs ht
  have hsize : s.size? = t.size? := by
    rw [size?_normal hs, size?_normal ht, (resembles_of_eqv h).size?_eq]
  obtain ⟨items, ws, -, rfl, -, -⟩ | ⟨-, hstored⟩ := normal_cases hs
  · obtain ⟨items', ws', -, rfl, -, -⟩ | ⟨-, hstored'⟩ := normal_cases ht
    · exact eqv_list hitems
    · rw [size?, size?, sequence?_of_isStored hstored'] at hsize
      cases hsize
  · obtain ⟨items', ws', -, rfl, -, -⟩ | ⟨-, hstored'⟩ := normal_cases ht
    · rw [size?, size?, sequence?_of_isStored hstored] at hsize
      cases hsize
    · rw [asList, asList, sequence?_of_isStored hstored, sequence?_of_isStored hstored'] at hitems
      cases hitems with
      | cons hst _ => exact hst

end

/-- One instant at two offsets, which do not even read as the same day. -/
example :
    let midnight := Value.dateTime ⟨2024, 1, 2⟩ ⟨0, 0, 0, 0⟩ (some 60)
    let evening := Value.dateTime ⟨2024, 1, 1⟩ ⟨23, 0, 0, 0⟩ (some 0)
    midnight.equal evening = .ok true ∧ midnight.normal = .ok (.text "2024-01-02 00:00:00") ∧
      evening.normal = .ok (.text "2024-01-01 23:00:00") := by
  refine ⟨?_, ?_, ?_⟩ <;> cbv

/-! ## Term fields -/

/-- The value is an integer. -/
def isInt : Value → Bool
  | .int _ => true
  | _ => false

theorem termField_eq (s : Settings) (terms : List Value) :
    termField s terms =
      if !terms.isEmpty && terms.all isInt then .text "term_id" else s.termField := rfl

theorem castType_eq_numeric_iff {v w : Value} (h : v.scalar = .ok w)
    (hnested : v.isNested = false) : v.castType = .numeric ↔ w.isInt = true := by
  rw [← castType_opened]
  rw [isNested] at hnested
  rw [scalar] at h
  cases hopened : v.opened <;> rw [hopened] at h hnested
  case member => cases hnested
  case int =>
    cases h
    exact iff_of_true rfl rfl
  case bool | float | decimal | text | dateTime | date | time =>
    cases h
    exact iff_of_false CastType.noConfusion Bool.false_ne_true
  case list | tuple => cases h
  all_goals
    obtain ⟨s, -, rfl⟩ := map_eq_ok.1 h
    exact iff_of_false CastType.noConfusion Bool.false_ne_true

theorem forall_castType_eq_numeric_iff {items vs : List Value}
    (h : List.Forall₂ (fun item v => item.scalar = .ok v) items vs)
    (hnested : ∀ item ∈ items, item.isNested = false) :
    (∀ item ∈ items, item.castType = .numeric) ↔ ∀ v ∈ vs, v.isInt = true := by
  induction h with
  | nil => simp
  | cons hscalar _ ih =>
      obtain ⟨hitem, hrest⟩ := List.forall_mem_cons.1 hnested
      rw [List.forall_mem_cons, List.forall_mem_cons, castType_eq_numeric_iff hscalar hitem,
        ih hrest]

/-- Terms are looked up by number if the type of what they were written as is that of integers. -/
theorem termField_of_normal {v w : Value} (s : Settings) (h : v.normal = .ok w)
    (hnested : ∀ item ∈ v.asList, item.isNested = false) :
    termField s w.asList = if v.castType = .numeric then .text "term_id" else s.termField := by
  have hscalars := scalars_of_normal h
  have hempty : v.asList = [] ↔ w.asList = [] := by
    rw [← List.length_eq_zero_iff, hscalars.length_eq, List.length_eq_zero_iff]
  have hnumeric : (!w.asList.isEmpty && w.asList.all isInt) = true ↔ v.castType = .numeric := by
    rw [castType_eq_common, CastType.common_eq_iff CastType.noConfusion, List.forall_mem_map,
      forall_castType_eq_numeric_iff hscalars hnested, Bool.and_eq_true, List.all_eq_true,
      Bool.not_eq_true', List.isEmpty_eq_false_iff, ne_eq, ne_eq, List.map_eq_nil_iff, hempty]
  rw [termField_eq]
  exact if_congr hnumeric rfl rfl

/-- A member in a member is given as a text. -/
theorem isNested_eq_false_of_isInt {items vs : List Value}
    (h : List.Forall₂ (fun item v => item.scalar = .ok v) items vs)
    (hints : ∀ v ∈ vs, v.isInt = true) : ∀ item ∈ items, item.isNested = false := by
  induction h with
  | nil => simp
  | @cons item v items vs hscalar _ ih =>
      obtain ⟨hint, hrest⟩ := List.forall_mem_cons.1 hints
      refine List.forall_mem_cons.2 ⟨?_, ih hrest⟩
      by_contra hnested
      obtain ⟨s, rfl⟩ := scalar_of_isNested hscalar (Bool.eq_true_of_not_eq_false hnested)
      cases hint

/-- Terms among which there is a member in a member are looked up in the configured field, since its
text is no integer. -/
theorem termField_of_nested {v w : Value} (s : Settings) (h : v.normal = .ok w)
    (hnested : ¬ ∀ item ∈ v.asList, item.isNested = false) :
    termField s w.asList = s.termField := by
  rw [termField_eq, if_neg]
  rw [Bool.and_eq_true, List.all_eq_true]
  rintro ⟨-, hints⟩
  exact hnested (isNested_eq_false_of_isInt (scalars_of_normal h) hints)

/-- Equal values are looked up in one field if both are of the type of integers or neither is. -/
theorem termField_congr {v w s t : Value} {settings : Settings} (h : v.eqv w = true)
    (hkind : settings.termField = .text "term_id" ∨ (v.castType = .numeric ↔ w.castType = .numeric))
    (hs : v.normal = .ok s) (ht : w.normal = .ok t) :
    termField settings s.asList = termField settings t.asList := by
  have hitems := forall₂_asList h
  have hboth : (∀ item ∈ v.asList, item.isNested = false) ↔
      ∀ item ∈ w.asList, item.isNested = false := by
    have hall := all_eq_of_resembles (p := fun item => !item.isNested)
      (fun _ _ hxy => by rw [hxy.isNested_eq]) hitems
    rw [Bool.eq_iff_iff, List.all_eq_true, List.all_eq_true] at hall
    simpa only [Bool.not_eq_true'] using hall
  by_cases hnested : ∀ item ∈ v.asList, item.isNested = false
  · rw [termField_of_normal settings hs hnested, termField_of_normal settings ht (hboth.1 hnested)]
    obtain hfield | hkind := hkind
    · rw [hfield, ite_self, ite_self]
    · exact if_congr hkind rfl rfl
  · rw [termField_of_nested settings hs hnested,
      termField_of_nested settings ht (mt hboth.2 hnested)]

/-! ## Integers -/

theorem dropZeros_spec {fuel n m k : Nat} (h : Number.dropZeros fuel n = (m, k)) :
    n = m * 10 ^ k := by
  induction fuel generalizing n m k with
  | zero =>
      cases h
      rw [Nat.pow_zero, Nat.mul_one]
  | succ fuel ih =>
      rw [Number.dropZeros] at h
      split at h
      · next hzero =>
          cases hrest : Number.dropZeros fuel (n / 10) with
          | mk m' k' =>
              rw [hrest] at h
              cases h
              have hn := ih hrest
              rw [Nat.pow_succ, ← Nat.mul_assoc, ← hn]
              omega
      · cases h
        rw [Nat.pow_zero, Nat.mul_one]

theorem stripZeros_spec (n : Nat) :
    n = (Number.stripZeros n).1 * 10 ^ (Number.stripZeros n).2 := by
  rw [Number.stripZeros]
  split
  · next hzero => rw [hzero, Nat.zero_mul]
  · exact dropZeros_spec rfl

theorem ofParts_of_ne_zero {n : Nat} (h : n ≠ 0) (negative : Bool) (exponent : Int) :
    Magnitude.ofParts negative n exponent =
      .finite negative (Number.stripZeros n).1 (exponent + (Number.stripZeros n).2) := by
  rw [Magnitude.ofParts, if_neg h]

theorem ofParts_injective {negative negative' : Bool} {n n' : Nat}
    (h : Magnitude.ofParts negative n 0 = .ofParts negative' n' 0) :
    n = n' ∧ (n ≠ 0 → negative = negative') := by
  have hzero : ∀ {negative' : Bool} {m : Nat}, m ≠ 0 →
      Magnitude.finite false 0 0 ≠ .ofParts negative' m 0 := by
    intro negative' m hm hsame
    rw [ofParts_of_ne_zero hm] at hsame
    injection hsame with _ hcoefficient _
    rw [stripZeros_spec m, ← hcoefficient, Nat.zero_mul] at hm
    exact hm rfl
  by_cases hn : n = 0
  · by_cases hn' : n' = 0
    · exact ⟨hn.trans hn'.symm, fun hne => absurd hn hne⟩
    · rw [hn, Magnitude.ofParts, if_pos rfl] at h
      exact absurd h (hzero hn')
  · by_cases hn' : n' = 0
    · rw [hn', Magnitude.ofParts.eq_def _ 0, if_pos rfl] at h
      exact absurd h.symm (hzero hn)
    · rw [ofParts_of_ne_zero hn, ofParts_of_ne_zero hn'] at h
      injection h with hnegative hcoefficient hexponent
      have hzeros : (Number.stripZeros n).2 = (Number.stripZeros n').2 := by
        omega
      refine ⟨?_, fun _ => hnegative⟩
      rw [stripZeros_spec n, stripZeros_spec n', hcoefficient, hzeros]

/-- Among integers nothing but the integer itself is equal to one. -/
theorem eq_of_eqv_int {m n : Int} (h : (Value.int m).eqv (.int n) = true) : m = n := by
  obtain ⟨a, ha, ha'⟩ : ∃ a, (Value.int m).number? = some a ∧ (Value.int n).number? = some a := by
    cases resembles_of_eqv h with
    | itself hself => cases hself
    | number hv hw => exact ⟨_, hv, hw⟩
    | mute hv _ => cases hv
  have hsame := ha.trans ha'.symm
  rw [number?, number?, Option.some.injEq] at hsame
  obtain ⟨habs, hnegative⟩ := ofParts_injective hsame
  rw [decide_eq_decide] at hnegative
  omega

end Value

end PostQuery
