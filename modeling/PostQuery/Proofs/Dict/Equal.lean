import PostQuery.Proofs.Dict.Update
import PostQuery.Proofs.Value.Calm

/-!
# Dictionaries with equal entries

Two dictionaries are equal if every entry of the one equals some entry of the other. So if they have
equal entries in one order they are equal, provided that their keys are all different: the entries
that come before the right one have other keys, and a comparison with a key is never an error.

Dictionaries stay equal in this way if equal entries are put into them. The values need not be known
to be equal for that, which is why `SameEntry` asks for it under a condition of its own.
-/

namespace PostQuery

open Value

/-- The two entries stand under one key, and if the condition holds their values are equal. -/
structure SameEntry (P : Prop) (e e' : Value × Value) : Prop where
  isKey : e.1.IsKey
  isKey' : e'.1.IsKey
  key : e.1.eqv e'.1 = true
  value : P → e.2.eqv e'.2 = true

namespace Dict

variable {P : Prop} {d d' f f' : Dict} {k k' v v' : Value}

/-! ## Putting -/

theorem same_eq_false (hk : k.IsKey) (hk' : k'.IsKey) (h : k.eqv k' = false) :
    same k k' = .ok false := by
  obtain ⟨b, hb⟩ := exists_same (exists_equal (isCalm_of_isKey hk) (isCalm_of_isKey hk'))
  cases b with
  | false => exact hb
  | true =>
      rw [eqv_eq_true.2 hb] at h
      cases h

theorem anyPasses_append {α : Type} {p : α → Except Misuse Bool} {before after : List α} {x : α}
    (hbefore : ∀ y ∈ before, p y = .ok false) (hx : p x = .ok true) :
    anyPasses p (before ++ x :: after) = .ok true := by
  induction before with
  | nil =>
      rw [List.nil_append, anyPasses, hx]
      rfl
  | cons y before ih =>
      obtain ⟨hy, hbefore⟩ := List.forall_mem_cons.1 hbefore
      rw [List.cons_append, anyPasses, hy]
      exact ih hbefore

/-- Among the entries of the other dictionary there is the one that is the same, and those before it
have other keys. -/
theorem exists_partner (h : List.Forall₂ (SameEntry P) d d') (hproper : d.IsProper)
    {e : Value × Value} (he : e ∈ d) :
    ∃ before e' after, d' = before ++ e' :: after ∧ SameEntry P e e' ∧
      ∀ g ∈ before, g.1.IsKey ∧ e.1.eqv g.1 = false := by
  induction h with
  | nil => cases he
  | @cons g g' rest rest' hentry hrest ih =>
      obtain ⟨-, hdistinct, hproper⟩ := isProper_cons.1 hproper
      obtain rfl | he := List.mem_cons.1 he
      · exact ⟨[], g', rest', rfl, hentry, by simp⟩
      · obtain ⟨before, e', after, rfl, hsame, hbefore⟩ := ih hproper he
        refine ⟨g' :: before, e', after, rfl, hsame, List.forall_mem_cons.2 ⟨?_, hbefore⟩⟩
        refine ⟨hentry.isKey', Bool.eq_false_iff.2 fun heg => ?_⟩
        have hge := eqv_trans hentry.isKey hentry.isKey' hsame.isKey hentry.key
          (eqv_symm hsame.isKey hentry.isKey' heg)
        rw [hdistinct e.1 (List.mem_map_of_mem he)] at hge
        cases hge

theorem equalEntries_of_partners
    (h : ∀ e ∈ d, ∃ before e' after, d' = before ++ e' :: after ∧ SameEntry True e e' ∧
      ∀ g ∈ before, g.1.IsKey ∧ e.1.eqv g.1 = false) : equalEntries d d' = .ok true := by
  induction d with
  | nil => rw [equalEntries]
  | cons e rest ih =>
      obtain ⟨he, hrest⟩ := List.forall_mem_cons.1 h
      obtain ⟨before, e', after, hsplit, hsame, hbefore⟩ := he
      rw [equalEntries]
      refine both_eq_ok.2 ⟨?_, ih hrest⟩
      rw [hsplit]
      refine anyPasses_append (fun g hg => ?_) ?_
      · obtain ⟨hkey, hne⟩ := hbefore g hg
        change (same e.1 g.1 >>= _) = _
        rw [same_eq_false hsame.isKey hkey hne]
        rfl
      · exact both_eq_ok.2 ⟨eqv_eq_true.1 hsame.key, eqv_eq_true.1 (hsame.value trivial)⟩

/-- Dictionaries with equal entries in one order are equal. -/
theorem equal_of_sameEntry (hP : P) (h : List.Forall₂ (SameEntry P) d d') (hproper : d.IsProper) :
    equal (.dict d) (.dict d') = .ok true := by
  have htrue : List.Forall₂ (SameEntry True) d d' :=
    h.imp fun _ _ he => ⟨he.isKey, he.isKey', he.key, fun _ => he.value hP⟩
  rw [equal, beq_iff_eq.2 h.length_eq, if_pos rfl]
  exact equalEntries_of_partners fun e he => exists_partner htrue hproper he

end Dict

end PostQuery
