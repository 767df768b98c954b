import Mathlib
import PostQuery.Value.Dict

/-!
# Looking up in dictionaries

The keys of the library's own dictionaries are texts. Equality of values in general is no
equivalence, but a text is equal to itself and to no other value, so what is put under a text is
found under that text alone.
-/

namespace PostQuery

/-- The value is the text. -/
def Value.isText (t : String) : Value → Bool
  | .text s => s == t
  | _ => false

theorem Value.isText_iff {v : Value} {t : String} : v.isText t = true ↔ v = .text t := by
  cases v <;> simp [isText]

theorem Value.equal_text (v : Value) (t : String) : v.equal (.text t) = .ok (v.isText t) := by
  cases v <;> simp [equal, isText, meetsItself, sameNumeric, isNumeric, number?, sameNumber]

theorem Value.eqv_isText (v : Value) (t : String) : v.eqv (.text t) = v.isText t := by
  have hshared : isShared v (.text t) = false := by
    cases v <;> rfl
  rw [eqv, same, hshared, if_neg Bool.false_ne_true, equal_text]

theorem Value.eqv_text (s t : String) : (Value.text s).eqv (.text t) = (s == t) :=
  eqv_isText (.text s) t

/-- A text is equal to nothing but itself, whichever of the two is asked. -/
theorem Value.eqv_text_eq_false {s : String} {q : Value} (h : q ≠ .text s) :
    (Value.text s).eqv q = false ∧ q.eqv (.text s) = false := by
  constructor
  · cases q with
    | text t =>
        rw [eqv_text, beq_eq_false_iff_ne]
        rintro rfl
        exact h rfl
    | _ =>
        rw [eqv, same, if_neg (by exact Bool.false_ne_true)]
        simp [equal, meetsItself, sameNumeric, isNumeric, number?, sameNumber]
  · rwa [eqv_isText, Bool.eq_false_iff, Ne, isText_iff]

theorem Value.eq_of_text_eqv {s : String} {q : Value} (h : (Value.text s).eqv q = true) :
    q = .text s := by
  by_contra hne
  rw [(eqv_text_eq_false hne).1] at h
  cases h

namespace Dict

@[simp] theorem get?_nil (q : Value) : get? [] q = none := rfl

theorem get?_cons (k v : Value) (d : Dict) (q : Value) :
    get? ((k, v) :: d) q = if k.eqv q then some v else d.get? q := by
  rw [get?, List.find?_cons]
  cases h : k.eqv q <;> rfl

@[simp] theorem get?_cons_text (s : String) (v : Value) (d : Dict) (t : String) :
    get? ((.text s, v) :: d) (.text t) = if s == t then some v else d.get? (.text t) := by
  rw [get?_cons, Value.eqv_text]

theorem get?_append (d e : Dict) (q : Value) :
    get? (d ++ e) q = (d.get? q).or (e.get? q) := by
  rw [get?, List.find?_append, Option.map_or]
  rfl

/-- What is put under a text is found there, and everything else is found where it was. -/
theorem get?_put_text (d : Dict) (s : String) (v q : Value) :
    (d.put (.text s) v).get? q = if (Value.text s).eqv q then some v else d.get? q := by
  induction d with
  | nil => rw [put, get?_cons]
  | cons e rest ih =>
      obtain ⟨k, w⟩ := e
      rw [put]
      by_cases hk : k = .text s
      · rw [hk, Value.eqv_text, BEq.rfl, if_pos rfl, get?_cons, get?_cons]
        split <;> rfl
      · have hkeep := (Value.eqv_text_eq_false hk).2
        rw [hkeep, if_neg Bool.false_ne_true, get?_cons, get?_cons, ih]
        by_cases hq : q = .text s
        · rw [hq, hkeep, if_neg Bool.false_ne_true]
          rfl
        · rw [(Value.eqv_text_eq_false hq).1, if_neg Bool.false_ne_true]
          rfl

end Dict

end PostQuery
