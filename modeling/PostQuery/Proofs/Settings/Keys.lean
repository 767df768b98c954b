import PostQuery.Proofs.Clause.Built
import PostQuery.Proofs.Dict
import PostQuery.Proofs.Value.Slots
import PostQuery.Settings

/-!
# Keys that name no setting

The keys of a dictionary that name no setting go through two sets, are put in order and are joined
to a list. What is left of them is left if there were any, and whether they can be reported is a
matter of texts alone. Texts can always be put in order and joined. A key that is no text has no
order among the others, or it is there when the names are joined, for putting them in order loses
none.
-/

namespace PostQuery

namespace Value

/-! ## Putting in order -/

theorem perm_of_placed {vs ws : Array Value} {v : Value} (h : placed vs v = .ok ws) :
    ws.toList.Perm (v :: vs.toList) := by
  rw [placed] at h
  obtain ⟨place, -, h⟩ := bind_eq_ok.1 h
  cases h
  have hsplit : (vs.extract 0 place ++ #[v] ++ vs.extract place vs.size).toList
      = vs.toList.take place ++ v :: vs.toList.drop place := by
    simp
  rw [hsplit]
  exact List.perm_middle.trans (by rw [List.take_append_drop])

theorem perm_of_foldlM_placed {vs : List Value} {a b : Array Value}
    (h : vs.foldlM placed a = .ok b) : b.toList.Perm (vs ++ a.toList) := by
  induction vs generalizing a with
  | nil =>
      cases h
      exact .refl _
  | cons v vs ih =>
      rw [List.foldlM_cons] at h
      obtain ⟨c, hc, h⟩ := bind_eq_ok.1 h
      exact ((ih h).trans ((perm_of_placed hc).append_left vs)).trans List.perm_middle

/-- Values that are put in order are all there afterwards. -/
theorem perm_of_sorted {vs ws : List Value} (h : sorted vs = .ok ws) : ws.Perm vs := by
  rw [sorted.eq_def] at h
  split at h
  · next v w rest =>
      obtain ⟨descending, -, h⟩ := bind_eq_ok.1 h
      obtain ⟨n, -, h⟩ := bind_eq_ok.1 h
      obtain ⟨all, hall, h⟩ := bind_eq_ok.1 h
      cases h
      have hrun : (if descending = true then (v :: w :: rest.take n).reverse
          else v :: w :: rest.take n).Perm (v :: w :: rest.take n) := by
        split
        · exact List.reverse_perm _
        · exact .refl _
      refine (perm_of_foldlM_placed hall).trans (List.perm_append_comm.trans ?_)
      refine (hrun.append_right _).trans ?_
      rw [List.cons_append, List.cons_append, List.take_append_drop]
  · cases h
    exact .refl _

theorem exists_less_of_isTextual {v w : Value} (hv : v.isTextual = true)
    (hw : w.isTextual = true) : ∃ b, less v w = .ok b := by
  obtain ⟨s, rfl⟩ := exists_text_of_isTextual hv
  obtain ⟨t, rfl⟩ := exists_text_of_isTextual hw
  exact ⟨_, by rw [less]⟩

theorem exists_placeOf_of_isTextual {v : Value} {vs : Array Value} {low high : Nat}
    (hv : v.isTextual = true) (hvs : ∀ w ∈ vs, w.isTextual = true) (hhigh : high ≤ vs.size) :
    ∃ n, placeOf v vs low high = .ok n := by
  rw [placeOf]
  split
  · next hlow =>
      have hmiddle : low + (high - low) / 2 < vs.size := by omega
      have hat : (vs.getD (low + (high - low) / 2) .null).isTextual = true := by
        rw [Array.getD_eq_getD_getElem?, Array.getElem?_eq_getElem hmiddle]
        exact hvs _ (Array.getElem_mem hmiddle)
      obtain ⟨b, hless⟩ := exists_less_of_isTextual hv hat
      simp only [hless]
      cases b with
      | true => exact exists_placeOf_of_isTextual hv hvs (by omega)
      | false => exact exists_placeOf_of_isTextual hv hvs hhigh
  · exact ⟨low, rfl⟩
termination_by high - low

theorem exists_foldlM_placed_of_isTextual {vs : List Value} {a : Array Value}
    (hvs : ∀ v ∈ vs, v.isTextual = true) (ha : ∀ w ∈ a, w.isTextual = true) :
    ∃ b, vs.foldlM placed a = .ok b := by
  induction vs generalizing a with
  | nil => exact ⟨a, rfl⟩
  | cons v vs ih =>
      obtain ⟨hv, hvs⟩ := List.forall_mem_cons.1 hvs
      obtain ⟨place, hplace⟩ : ∃ n, placeOf v a 0 a.size = .ok n :=
        exists_placeOf_of_isTextual hv ha le_rfl
      have hplaced : placed a v
          = .ok (a.extract 0 place ++ #[v] ++ a.extract place a.size) := by
        rw [placed, hplace]
        rfl
      obtain ⟨b, hb⟩ := ih hvs (a := a.extract 0 place ++ #[v] ++ a.extract place a.size)
        fun w hw => by
          obtain rfl | hw := List.mem_cons.1 ((perm_of_placed hplaced).mem_iff.1 hw.val)
          · exact hv
          · exact ha w ⟨hw⟩
      exact ⟨b, by rw [List.foldlM_cons, hplaced]; exact hb⟩

theorem exists_runLength_of_isTextual {descending : Bool} {v : Value} {ws : List Value}
    (hv : v.isTextual = true) (hws : ∀ w ∈ ws, w.isTextual = true) :
    ∃ n, runLength descending v ws = .ok n := by
  induction ws generalizing v with
  | nil => exact ⟨0, rfl⟩
  | cons w ws ih =>
      obtain ⟨hw, hws⟩ := List.forall_mem_cons.1 hws
      obtain ⟨b, hless⟩ := exists_less_of_isTextual hw hv
      obtain ⟨n, hn⟩ := ih hw hws
      rw [runLength, hless]
      by_cases hb : (b == descending) = true
      · exact ⟨n + 1, by simp [hb, hn, bind, Except.bind, pure, Except.pure]⟩
      · exact ⟨0, by simp [hb, bind, Except.bind, pure, Except.pure]⟩

/-- Texts can be put in order. -/
theorem exists_sorted_of_isTextual {vs : List Value} (h : ∀ v ∈ vs, v.isTextual = true) :
    ∃ ws, sorted vs = .ok ws := by
  match vs with
  | [] => exact ⟨_, rfl⟩
  | [v] => exact ⟨_, rfl⟩
  | v :: w :: rest =>
      obtain ⟨hv, hrest⟩ := List.forall_mem_cons.1 h
      obtain ⟨hw, hrest⟩ := List.forall_mem_cons.1 hrest
      obtain ⟨descending, hless⟩ := exists_less_of_isTextual hw hv
      obtain ⟨n, hn⟩ : ∃ n, runLength descending w rest = .ok n :=
        exists_runLength_of_isTextual hw hrest
      have hdrop : ∀ x ∈ rest.drop n, x.isTextual = true :=
        fun x hx => hrest x (List.mem_of_mem_drop hx)
      have hrun : ∀ x ∈ v :: w :: rest.take n, x.isTextual = true :=
        List.forall_mem_cons.2 ⟨hv, List.forall_mem_cons.2
          ⟨hw, fun x hx => hrest x (List.mem_of_mem_take hx)⟩⟩
      obtain ⟨all, hall⟩ := exists_foldlM_placed_of_isTextual hdrop
        (a := (if descending then (v :: w :: rest.take n).reverse
          else v :: w :: rest.take n).toArray) fun x hx => by
          rw [List.mem_toArray] at hx
          split at hx
          · exact hrun x (List.mem_reverse.1 hx)
          · exact hrun x hx
      exact ⟨all.toList, bind_eq_ok.2
        ⟨descending, hless, bind_eq_ok.2 ⟨n, hn, bind_eq_ok.2 ⟨all, hall, rfl⟩⟩⟩⟩

end Value

namespace Settings

open Value

theorem listed_of_isTextual {vs : List Value} (h : ∀ v ∈ vs, v.isTextual = true) :
    ∃ names, listed vs = .ok names := by
  induction vs with
  | nil => exact ⟨[], rfl⟩
  | cons v vs ih =>
      obtain ⟨hv, hvs⟩ := List.forall_mem_cons.1 h
      obtain ⟨t, rfl⟩ := exists_text_of_isTextual hv
      obtain ⟨names, hnames⟩ := ih hvs
      exact ⟨t :: names, by rw [listed, hnames]; rfl⟩

theorem isTextual_of_listed {vs : List Value} {names : List String} (h : listed vs = .ok names) :
    ∀ v ∈ vs, v.isTextual = true := by
  induction vs generalizing names with
  | nil => exact fun v hv => nomatch hv
  | cons v vs ih =>
      rw [listed.eq_def] at h
      split at h
      · next hnil => cases hnil
      · next s rest heq =>
          cases heq
          obtain ⟨names', hnames, -⟩ := map_eq_ok.1 h
          exact List.forall_mem_cons.2 ⟨rfl, ih hnames⟩
      · cases h

theorem unknownFault_cases (keys : List Value) :
    (∃ names, unknownFault keys = .unknown names) ∨ ∃ m, unknownFault keys = .misuse m := by
  rw [unknownFault]
  split
  · exact .inl ⟨_, rfl⟩
  · exact .inr ⟨_, rfl⟩

/-- Keys can be reported just if all of them are texts. -/
theorem unknownFault_isUnknown {keys : List Value} :
    (∃ names, unknownFault keys = .unknown names) ↔ ∀ k ∈ keys, k.isTextual = true := by
  constructor
  · rintro ⟨names, h⟩
    rw [unknownFault] at h
    split at h
    · next names' hlisted =>
        obtain ⟨ws, hsorted, hws⟩ := bind_eq_ok.1 hlisted
        intro k hk
        exact isTextual_of_listed hws k ((perm_of_sorted hsorted).mem_iff.2 hk)
    · cases h
  · intro h
    obtain ⟨ws, hsorted⟩ := exists_sorted_of_isTextual h
    obtain ⟨names, hnames⟩ := listed_of_isTextual fun w hw =>
      h w ((perm_of_sorted hsorted).mem_iff.1 hw)
    exact ⟨names, by rw [unknownFault, bind_eq_ok.2 ⟨ws, hsorted, hnames⟩]⟩

/-- The key names a setting. -/
def isKnown (k : Value) : Bool := names.any fun name => k.eqv (.text name)

theorem isKnown_iff {k : Value} : isKnown k = true ↔ ∃ name ∈ names, k = .text name := by
  simp only [isKnown, List.any_eq_true, eqv_isText, isText_iff]

theorem unknownKeys_eq (d : Dict) : unknownKeys d
    = inSlotsOneByOne (inSlots d.length ((d.map Prod.fst).filter fun k => !isKnown k)) := rfl

theorem isDrawnFrom_unknownKeys (d : Dict) :
    IsDrawnFrom (unknownKeys d) ((d.map Prod.fst).filter fun k => !isKnown k) :=
  (isDrawnFrom_inSlotsOneByOne _).trans (isDrawnFrom_inSlots _ _)

/-- There are unknown keys just if some key names no setting. -/
theorem unknownKeys_eq_nil {d : Dict} :
    unknownKeys d = [] ↔ ∀ k ∈ d.map Prod.fst, isKnown k = true := by
  rw [(isDrawnFrom_unknownKeys d).eq_nil, List.filter_eq_nil_iff]
  simp only [Bool.not_eq_true', Bool.not_eq_false]

/-- All unknown keys are texts just if every key is one or names a setting. -/
theorem unknownKeys_isTextual {d : Dict} :
    (∀ k ∈ unknownKeys d, k.isTextual = true) ↔
      ∀ k ∈ d.map Prod.fst, k.isTextual = true := by
  have htwice := ((isDrawnFrom_inSlotsOneByOne
      (inSlots d.length ((d.map Prod.fst).filter fun k => !isKnown k))).all_isTextual
        inSlotsOneByOne_of_hashes?_eq_none).trans
    ((isDrawnFrom_inSlots d.length ((d.map Prod.fst).filter fun k => !isKnown k)).all_isTextual
      inSlots_of_hashes?_eq_none)
  rw [unknownKeys_eq, htwice]
  constructor
  · intro h k hk
    cases hknown : isKnown k with
    | true =>
        obtain ⟨name, -, rfl⟩ := isKnown_iff.1 hknown
        rfl
    | false => exact h k (List.mem_filter.2 ⟨hk, by rw [hknown]; rfl⟩)
  · intro h k hk
    exact h k (List.mem_filter.1 hk).1

end Settings

end PostQuery
