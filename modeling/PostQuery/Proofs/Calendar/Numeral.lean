import Mathlib
import PostQuery.Calendar

/-!
# Texts made of numerals

A stored date is a row of numerals with a character between each two of them. Of two numerals of one
width the smaller text is that of the smaller number, and at the first place where two rows differ
there are two such numerals. So two rows of the same widths compare as texts in the way in which
their lists of numbers compare, which is `AreNumerals.lt_iff`. The widths are also all that is
needed to read the numbers back.
-/

namespace PostQuery

/-- The characters are a decimal numeral of the width for the number. -/
structure IsNumeral (width n : Nat) (cs : List Char) : Prop where
  digits : ∀ c ∈ cs, c.isDigit = true
  length : cs.length = width
  value : Nat.ofDigitChars 10 cs 0 = n

/-- The characters are numerals of the widths for the numbers, with the marks between them. -/
inductive AreNumerals : List Nat → List Char → List Nat → List Char → Prop
  | last {width n : Nat} {cs : List Char} (h : IsNumeral width n cs) :
      AreNumerals [width] [] [n] cs
  | cons {width n : Nat} {mark : Char} {cs : List Char} {widths : List Nat} {marks : List Char}
      {ns : List Nat} {rest : List Char} (h : IsNumeral width n cs)
      (hrest : AreNumerals widths marks ns rest) :
      AreNumerals (width :: widths) (mark :: marks) (n :: ns) (cs ++ mark :: rest)

/-! ## Numerals of dates -/

theorem isNumeral_unpadded (n : Nat) :
    IsNumeral (Number.digitCount n) n (unpadded n).toList := by
  rw [unpadded, String.toList_ofList, Number.digits]
  exact ⟨fun _ => Nat.isDigit_of_mem_toDigits (by omega) (by omega), rfl,
    Nat.ofDigitChars_toDigits (by omega) (by omega)⟩

theorem isNumeral_padded {width n : Nat} (hwidth : 0 < width) (h : n < 10 ^ width) :
    IsNumeral width n (padded width n).toList := by
  have hlength : (Number.digits n).length ≤ width :=
    (Nat.length_toDigits_le_iff (by omega) hwidth).2 h
  rw [padded, String.toList_ofList]
  constructor
  · intro c hc
    rcases List.mem_append.1 hc with hzero | hdigit
    · rw [List.eq_of_mem_replicate hzero]
      rfl
    · exact (isNumeral_unpadded n).digits c (by rwa [unpadded, String.toList_ofList])
  · rw [List.length_append, List.length_replicate]
    omega
  · rw [Nat.ofDigitChars_append, Nat.ofDigitChars_replicate_zero, Nat.mul_zero]
    exact Nat.ofDigitChars_toDigits (by omega) (by omega)

theorem isNumeral_padded_two {n : Nat} (h : n < 100) : IsNumeral 2 n (padded 2 n).toList :=
  isNumeral_padded (by omega) h

/-! ## Order -/

theorem append_lt_append_iff {α : Type} [LT α] {xs ys : List α} (h : xs.length = ys.length)
    (xs' ys' : List α) : xs ++ xs' < ys ++ ys' ↔ xs < ys ∨ xs = ys ∧ xs' < ys' := by
  induction xs generalizing ys with
  | nil =>
      cases ys with
      | nil => simp
      | cons => cases h
  | cons x xs ih =>
      cases ys with
      | nil => cases h
      | cons y ys =>
          rw [List.cons_append, List.cons_append, List.cons_lt_cons_iff, List.cons_lt_cons_iff,
            ih (Nat.succ.inj h), List.cons.injEq]
          tauto

theorem ofDigitChars_cons (c : Char) (cs : List Char) :
    Nat.ofDigitChars 10 (c :: cs) 0
      = 10 ^ cs.length * (c.toNat - 48) + Nat.ofDigitChars 10 cs 0 := by
  rw [Nat.ofDigitChars_cons, Nat.ofDigitChars_eq_ofDigitChars_zero, Nat.mul_zero, Nat.zero_add]
  rfl

theorem isDigit_bounds {c : Char} (h : c.isDigit = true) : 48 ≤ c.toNat ∧ c.toNat ≤ 57 :=
  Char.isDigit_iff_toNat.1 h

theorem ofDigitChars_lt {cs : List Char} (h : ∀ c ∈ cs, c.isDigit = true) :
    Nat.ofDigitChars 10 cs 0 < 10 ^ cs.length := by
  induction cs with
  | nil => simp
  | cons c cs ih =>
      obtain ⟨hc, hcs⟩ := List.forall_mem_cons.1 h
      have hdigit := isDigit_bounds hc
      have hrest := ih hcs
      rw [ofDigitChars_cons, List.length_cons, Nat.pow_succ]
      have hmul : 10 ^ cs.length * (c.toNat - 48) ≤ 10 ^ cs.length * 9 :=
        Nat.mul_le_mul_left _ (by omega)
      omega

/-- What stands in front decides, unless it is the same. -/
theorem mul_add_lt_iff {k a b x y : Nat} (hx : x < k) (hy : y < k) :
    k * a + x < k * b + y ↔ a < b ∨ a = b ∧ x < y := by
  rcases Nat.lt_trichotomy a b with hab | hab | hab
  · have hmul : k * (a + 1) ≤ k * b := Nat.mul_le_mul_left k hab
    rw [Nat.mul_succ] at hmul
    omega
  · rw [hab]
    omega
  · have hmul : k * (b + 1) ≤ k * a := Nat.mul_le_mul_left k hab
    rw [Nat.mul_succ] at hmul
    omega

theorem digits_lt_iff {cs ds : List Char} (hlength : cs.length = ds.length)
    (hcs : ∀ c ∈ cs, c.isDigit = true) (hds : ∀ d ∈ ds, d.isDigit = true) :
    cs < ds ↔ Nat.ofDigitChars 10 cs 0 < Nat.ofDigitChars 10 ds 0 := by
  induction cs generalizing ds with
  | nil =>
      cases ds with
      | nil => simp
      | cons => cases hlength
  | cons c cs ih =>
      cases ds with
      | nil => cases hlength
      | cons d ds =>
          obtain ⟨hc, hcs⟩ := List.forall_mem_cons.1 hcs
          obtain ⟨hd, hds⟩ := List.forall_mem_cons.1 hds
          have hrest : cs.length = ds.length := Nat.succ.inj hlength
          have hfirst : c < d ↔ c.toNat - 48 < d.toNat - 48 := by
            have hc := isDigit_bounds hc
            have hd := isDigit_bounds hd
            rw [show c < d ↔ c.toNat < d.toNat from Char.lt_def]
            omega
          have hsame : c = d ↔ c.toNat - 48 = d.toNat - 48 := by
            have hc := isDigit_bounds hc
            have hd := isDigit_bounds hd
            rw [← Char.toNat_inj]
            omega
          have hds' := ofDigitChars_lt hds
          rw [← hrest] at hds'
          rw [List.cons_lt_cons_iff, ih hrest hcs hds, hfirst, hsame, ofDigitChars_cons,
            ofDigitChars_cons, ← hrest, mul_add_lt_iff (ofDigitChars_lt hcs) hds']

theorem eq_iff_of_lt_iff {α β : Type} [LinearOrder α] [LinearOrder β] {a b : α} {x y : β}
    (h : a < b ↔ x < y) (h' : b < a ↔ y < x) : a = b ↔ x = y := by
  rw [le_antisymm_iff, le_antisymm_iff, ← not_lt, ← not_lt, ← not_lt, ← not_lt, h, h']

namespace IsNumeral

variable {width n n' : Nat} {cs cs' : List Char}

theorem lt_iff (h : IsNumeral width n cs) (h' : IsNumeral width n' cs') : cs < cs' ↔ n < n' := by
  rw [digits_lt_iff (h.length.trans h'.length.symm) h.digits h'.digits, h.value, h'.value]

theorem eq_iff (h : IsNumeral width n cs) (h' : IsNumeral width n' cs') : cs = cs' ↔ n = n' :=
  eq_iff_of_lt_iff (h.lt_iff h') (h'.lt_iff h)

end IsNumeral

namespace AreNumerals

variable {widths : List Nat} {marks : List Char} {ns ns' : List Nat} {cs cs' : List Char}

theorem lt_iff (h : AreNumerals widths marks ns cs) (h' : AreNumerals widths marks ns' cs') :
    cs < cs' ↔ ns < ns' := by
  induction h generalizing ns' cs' with
  | last h =>
      cases h' with
      | last h' => simp [List.cons_lt_cons_iff, h.lt_iff h']
  | cons h _ ih =>
      cases h' with
      | cons h' hrest' =>
          rw [append_lt_append_iff (h.length.trans h'.length.symm), h.lt_iff h', h.eq_iff h',
            List.cons_lt_cons_iff, List.cons_lt_cons_iff, ih hrest']
          simp

theorem eq_iff (h : AreNumerals widths marks ns cs) (h' : AreNumerals widths marks ns' cs') :
    cs = cs' ↔ ns = ns' :=
  eq_iff_of_lt_iff (h.lt_iff h') (h'.lt_iff h)

theorem append {widths' : List Nat} {marks' : List Char} (mark : Char)
    (h : AreNumerals widths marks ns cs) (h' : AreNumerals widths' marks' ns' cs') :
    AreNumerals (widths ++ widths') (marks ++ mark :: marks') (ns ++ ns') (cs ++ mark :: cs') := by
  induction h with
  | last h => exact .cons h h'
  | cons h _ ih =>
      rw [List.append_assoc, List.cons_append]
      exact .cons h ih

end AreNumerals

/-! ## Forms and columns -/

/-- In a form a nought stands for any digit, and every other character for itself. -/
def FitsForm (form s : String) : Prop :=
  List.Forall₂ (fun f c => if f = '0' then c.isDigit = true else c = f) form.toList s.toList

/-- Noughts of the widths, with the marks between them. -/
def noughts : List Nat → List Char → List Char
  | [], _ => []
  | width :: widths, [] => List.replicate width '0' ++ noughts widths []
  | width :: widths, mark :: marks => List.replicate width '0' ++ mark :: noughts widths marks

/-- The numbers in columns of the widths, with one character skipped after each of them. -/
def columns : List Nat → List Char → List Nat
  | [], _ => []
  | width :: widths, cs =>
    Nat.ofDigitChars 10 (cs.take width) 0 :: columns widths (cs.drop (width + 1))

theorem FitsForm.length_eq {form s : String} (h : FitsForm form s) :
    form.toList.length = s.toList.length := List.Forall₂.length_eq h

namespace AreNumerals

variable {widths : List Nat} {marks : List Char} {ns : List Nat} {cs : List Char}

theorem columns_eq (h : AreNumerals widths marks ns cs) : columns widths cs = ns := by
  induction h with
  | last h => simp [columns, ← h.length, h.value]
  | cons h _ ih => simp [columns, ← h.length, h.value, ih]

theorem length_eq (h : AreNumerals widths marks ns cs) :
    cs.length = widths.sum + marks.length := by
  induction h with
  | last h => simp [h.length]
  | cons h _ ih =>
      simp only [List.length_append, List.length_cons, List.sum_cons, h.length, ih]
      omega

theorem fitsForm {s : String} (h : AreNumerals widths marks ns s.toList) :
    FitsForm (String.ofList (noughts widths marks)) s := by
  have hnumeral : ∀ {width n cs}, IsNumeral width n cs →
      List.Forall₂ (fun f c => if f = '0' then c.isDigit = true else c = f)
        (List.replicate width '0') cs := by
    intro width n cs h
    rw [← h.length, List.forall₂_iff_get]
    refine ⟨by simp, fun i hi hcs => ?_⟩
    simpa using h.digits _ (List.getElem_mem hcs)
  rw [FitsForm, String.toList_ofList]
  generalize s.toList = cs at h
  induction h with
  | last h => simpa [noughts] using hnumeral h
  | @cons _ _ mark _ _ _ _ _ h _ ih =>
      refine List.rel_append (hnumeral h) (.cons ?_ ih)
      split
      · next hmark => rw [hmark]; rfl
      · rfl

end AreNumerals

end PostQuery
