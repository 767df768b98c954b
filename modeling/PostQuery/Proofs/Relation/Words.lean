import PostQuery.Proofs.Tree.Canonical
import PostQuery.Proofs.Value.Equal

/-!
# Kinds that spell nothing

A kind is found by a text, and texts equal nothing but themselves, as the members of enumerations do
that stand for operators. So of two equal kinds that are not one and the same, neither can be an
operator. They are numbers or moments, which are written with a digit, a sign or a point, or values
without a text, which are displayed with a mark; and there is no operator with any of these in it.
The only numbers that are written otherwise are truth values and infinities.
-/

namespace PostQuery

/-- Characters that no operator and no junction is spelled with: marks, signs and digits. -/
def strangers : List Char := marks ++ ['+', '-', '0', '1', '2', '3', '4', '5', '6', '7', '8', '9']

/-- The key is the written value of a comparison or a junction. -/
def isWord (key : String) : Bool :=
  (Comparison.ofText? key).isSome || (Junction.ofText? key).isSome

theorem isWord_eq_false {key : String} :
    isWord key = false ↔ Comparison.ofText? key = none ∧ Junction.ofText? key = none := by
  rw [isWord, Bool.or_eq_false_iff, Option.isSome_eq_false_iff, Option.isSome_eq_false_iff,
    Option.isNone_iff_eq_none, Option.isNone_iff_eq_none]

namespace Value

theorem isWord_keyForm {c : Char} {s : String} (hc : c ∈ strangers) (h : c ∈ s.toList) :
    isWord (keyForm s) = false := by
  obtain ⟨hblank, hsmall, hlower⟩ :
      Text.isBlank c = false ∧ c.toNat < 0x80 ∧ c.toLower = c := by
    rw [strangers, marks] at hc
    fin_cases hc <;> decide
  have hkey := mem_keyForm h hblank hsmall hlower
  have hcomparisons : ∀ w ∈ Comparison.all, c ∉ w.text.toList := by
    rw [strangers, marks] at hc
    fin_cases hc <;> decide
  have hjunctions : ∀ j ∈ Junction.all, c ∉ j.text.toList := by
    rw [strangers, marks] at hc
    fin_cases hc <;> decide
  rw [isWord_eq_false, Comparison.ofText?, Junction.ofText?, List.find?_eq_none,
    List.find?_eq_none]
  constructor
  · intro w hw heq
    rw [← eq_of_beq heq] at hkey
    exact hcomparisons w hw hkey
  · intro j hj heq
    rw [← eq_of_beq heq] at hkey
    exact hjunctions j hj hkey

/-- Neither the text nor the key of the kind is an operator or a junction. -/
structure IsWordless (kind : Value) : Prop where
  text : ∀ s, kind.normalText = .ok s → isWord (keyForm s) = false
  key : isWord kind.kindKey = false

/-! ## Numbers -/

theorem mem_strangers_of_isDigit {c : Char} (h : c.isDigit = true) : c ∈ strangers := by
  obtain ⟨hlow, hhigh⟩ := isDigit_bounds h
  rw [← Char.ofNat_toNat c]
  generalize c.toNat = n at hlow hhigh
  interval_cases n <;> decide

theorem exists_stranger_digits (n : Nat) : ∃ c ∈ strangers, c ∈ Number.digits n := by
  obtain ⟨c, hc⟩ := List.exists_mem_of_ne_nil _ (Nat.toDigits_ne_nil (n := n) (b := 10))
  refine ⟨c, mem_strangers_of_isDigit ?_, hc⟩
  exact Nat.isDigit_of_mem_toDigits (by omega) (by omega) hc

theorem isWord_intText (n : Int) : isWord (keyForm (Number.intText n)) = false := by
  obtain ⟨c, hc, hmem⟩ : ∃ c ∈ strangers, c ∈ (Number.intText n).toList := by
    cases n with
    | ofNat m =>
        rw [Number.intText.eq_def, String.toList_ofList]
        exact exists_stranger_digits m
    | negSucc m =>
        rw [Number.intText.eq_def, String.toList_ofList]
        exact ⟨'-', by decide, List.mem_cons_self⟩
  exact isWord_keyForm hc hmem

theorem mem_signed {c : Char} {cs : List Char} (h : c ∈ cs) (negative : Bool) :
    c ∈ Number.signed negative cs := by
  cases negative with
  | true => exact List.mem_cons_of_mem _ h
  | false => exact h

theorem exists_stranger_plainLayout (s : Number.Scientific) :
    ∃ c ∈ strangers, c ∈ Number.plainLayout s := by
  rw [Number.plainLayout]
  split
  · exact ⟨'.', by decide, by simp⟩
  · by_cases hsign : s.point - 1 < 0
    · exact ⟨'-', by decide, by simp [Number.exponentText, hsign]⟩
    · exact ⟨'+', by decide, by simp [Number.exponentText, hsign]⟩

theorem isWord_floatText {x : Number.Binary64} (h : x.view ≠ .nan) :
    isWord (keyForm (Number.floatText x)) = false := by
  rw [Number.floatText]
  cases hview : x.view with
  | nan => exact absurd hview h
  | infinite negative => cases negative <;> decide
  | finite negative m q =>
      obtain ⟨c, hc, hmem⟩ : ∃ c ∈ strangers,
          c ∈ if m = 0 then ['0', '.', '0'] else Number.plainLayout (Number.shortest m q) := by
        split
        · exact ⟨'.', by decide, by decide⟩
        · exact exists_stranger_plainLayout _
      refine isWord_keyForm hc ?_
      rw [String.toList_ofList]
      exact mem_signed hmem negative

/-- Wherever the point is put among digits, all of them are written. -/
theorem mem_positional {c : Char} {ds : List Char} (h : c ∈ ds) (point : Int) :
    c ∈ if point ≤ 0 then '0' :: '.' :: (List.replicate (-point).toNat '0' ++ ds)
      else if ds.length ≤ point.toNat then ds ++ List.replicate (point.toNat - ds.length) '0'
      else ds.take point.toNat ++ '.' :: ds.drop point.toNat := by
  split
  · simp [h]
  · split
    · exact List.mem_append_left _ h
    · rw [← List.take_append_drop point.toNat ds, List.mem_append] at h
      obtain htaken | hleft := h
      · exact List.mem_append_left _ htaken
      · exact List.mem_append_right _ (List.mem_cons_of_mem _ hleft)

theorem isWord_decimalText {d : Number.Decimal} (h : d.isNan = false) :
    isWord (keyForm d.text) = false := by
  cases d with
  | nan => cases h
  | infinite negative => cases negative <;> decide
  | finite negative coefficient exponent =>
      obtain ⟨c, hc, hmem⟩ := exists_stranger_digits coefficient
      refine isWord_keyForm hc ?_
      rw [Number.Decimal.text, String.toList_ofList]
      exact List.mem_append_left _ (List.mem_append_right _ (mem_positional hmem _))

/-! ## Kinds -/

theorem isWordless_of_text {kind : Value} {s : String} (h : kind.normalText = .ok s)
    (htext : isWord (keyForm s) = false) (hkey : isWord kind.kindKey = false) :
    kind.IsWordless := by
  refine ⟨fun s' hs' => ?_, hkey⟩
  rw [h] at hs'
  cases hs'
  exact htext

theorem isWordless_of_number? {kind : Value} {m : Magnitude} (h : kind.number? = some m) :
    kind.IsWordless := by
  cases kind with
  | bool b => cases b <;> exact isWordless_of_text rfl (by decide) (by decide)
  | int n => exact isWordless_of_text rfl (isWord_intText n) (isWord_intText n)
  | float x =>
      have hview : x.view ≠ .nan := by
        intro hnan
        rw [number?, hnan] at h
        cases h
      exact isWordless_of_text rfl (isWord_floatText hview) (isWord_floatText hview)
  | decimal d =>
      have hnan : d.isNan = false := by
        cases d <;> first | rfl | cases h
      exact isWordless_of_text rfl (isWord_decimalText hnan) (isWord_decimalText hnan)
  | _ => cases h

theorem isWordless_dateTime (d : Date) (t : Clock) (o : Option Offset) :
    (Value.dateTime d t o).IsWordless := by
  have hdash : '-' ∈ (Value.dateTime d t o).display.toList := by
    show '-' ∈ (d.isoText ++ " " ++ t.isoText ++ (o.map Offset.isoText).getD "").toList
    simp [Date.isoText]
  have htext : isWord (keyForm (Value.dateTime d t o).display) = false :=
    isWord_keyForm (by decide) hdash
  exact isWordless_of_text rfl htext htext

/-- What has no text is displayed with a mark. -/
theorem isWordless_of_not_isScalar {kind : Value} (h : kind.isScalar = false)
    (hnull : kind ≠ .null) (hobject : kind.isObject = false) (hopened : kind.opened = kind) :
    kind.IsWordless := by
  constructor
  · intro s hs
    have hscalar := (exists_normalText kind).1 ⟨s, hs⟩
    rw [h] at hscalar
    cases hscalar
  · obtain ⟨c, hc, hmem⟩ := exists_mark_display h hnull hobject
    rw [kindKey, hopened]
    exact isWord_keyForm (List.mem_append_left _ hc) hmem

/-- Two kinds that are equal are one, or neither spells anything. -/
theorem eq_or_isWordless {kind kind' : Value} (h : kind.eqv kind' = true) :
    kind = kind' ∨ kind.IsWordless ∧ kind'.IsWordless := by
  have hmute : ∀ {u : Value}, u.isMute = true → u.IsWordless := by
    intro u hu
    refine isWordless_of_not_isScalar (isScalar_of_isMute hu) ?_ ?_ ?_
    · rintro rfl
      cases hu
    · cases u <;> first | rfl | cases hu
    · cases u <;> first | rfl | cases hu
  cases resembles_of_eqv h with
  | itself => exact .inl rfl
  | number hv hw => exact .inr ⟨isWordless_of_number? hv, isWordless_of_number? hw⟩
  | moment => exact .inr ⟨isWordless_dateTime _ _ _, isWordless_dateTime _ _ _⟩
  | mute hv hw => exact .inr ⟨hmute hv, hmute hw⟩
  | list | tuple | literal | «variable» | field | expr =>
      refine .inr ⟨isWordless_of_not_isScalar rfl ?_ rfl rfl,
        isWordless_of_not_isScalar rfl ?_ rfl rfl⟩
      · rintro ⟨⟩
      · rintro ⟨⟩

namespace IsWordless

variable {kind : Value}

theorem isJunctionKind_eq_false (h : kind.IsWordless) : kind.isJunctionKind = false := by
  rw [isJunctionKind, (isWord_eq_false.1 h.key).2, Option.isSome_none]

theorem pair?_eq_none {key : String} (h : isWord key = false) (ctx : Context) :
    ctx.pair? key = none := by
  obtain ⟨hcomparison, hjunction⟩ := isWord_eq_false.1 h
  cases ctx <;> simp [Context.pair?, hcomparison, hjunction]

/-- No context has an operator for a kind that spells nothing. -/
theorem resolve (h : kind.IsWordless) (ctx : Context) (negated : Bool) :
    ∃ f, ctx.resolve kind negated = .error f := by
  rw [Context.resolve, Context.key]
  cases htext : kind.normalText with
  | error v => exact ⟨_, rfl⟩
  | ok s =>
      simp only [Except.map, pair?_eq_none (h.text s htext)]
      exact ⟨_, rfl⟩

end IsWordless

end Value

end PostQuery
