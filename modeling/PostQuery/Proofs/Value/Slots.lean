import Mathlib
import PostQuery.Value.Slots

/-!
# What a set gives back

A set gives its items slot by slot. None of them is made up, and that none is left is only so where
none was put in: whatever slot is taken for an item, the table has an item afterwards, and it does
when it is grown. Whether every item finds a slot is not asked here.

Texts are not gone through slot by slot, so where there is one among the items all are given back.
-/

namespace PostQuery

namespace Value

namespace Slots

variable {t : Table} {x y : UInt64 × Value} {vs : List (UInt64 × Value)}

theorem mem_contents : y ∈ contents t ↔ some y ∈ t.toList := by
  rw [contents, List.mem_filterMap]
  constructor
  · rintro ⟨o, ho, rfl⟩
    exact ho
  · intro h
    exact ⟨some y, h, rfl⟩

theorem contents_empty (size : Nat) : contents (empty size) = [] := by
  rw [List.eq_nil_iff_forall_not_mem]
  intro y hy
  rw [mem_contents, empty, Array.toList_replicate] at hy
  cases List.eq_of_mem_replicate hy

/-! Nothing is made up. -/

theorem mem_of_mem_put (h : y ∈ contents (put t x)) : y = x ∨ y ∈ contents t := by
  rw [put] at h
  split at h
  · rw [mem_contents, Array.toList_setIfInBounds] at h
    obtain h | h := List.mem_or_eq_of_mem_set h
    · exact .inr (mem_contents.2 h)
    · exact .inl (Option.some.inj h)
  · exact .inr h

theorem mem_of_mem_foldl_put (h : y ∈ contents (vs.foldl put t)) : y ∈ vs ∨ y ∈ contents t := by
  induction vs generalizing t with
  | nil => exact .inr h
  | cons x vs ih =>
      obtain h | h := ih h
      · exact .inl (List.mem_cons_of_mem _ h)
      · obtain rfl | h := mem_of_mem_put h
        · exact .inl List.mem_cons_self
        · exact .inr h

theorem mem_of_mem_resized {least : Nat} (h : y ∈ contents (resized t least)) :
    y ∈ contents t := by
  obtain h | h := mem_of_mem_foldl_put h
  · exact h
  · rw [contents_empty] at h
    cases h

theorem mem_of_mem_added {used : Nat} (h : y ∈ contents (added t used x)) :
    y = x ∨ y ∈ contents t := by
  rw [added] at h
  split at h
  · exact mem_of_mem_put (mem_of_mem_resized h)
  · exact mem_of_mem_put h

/-! Nothing is left of the items only where there were none. -/

theorem put_ne_nil (h : contents t ≠ []) : contents (put t x) ≠ [] := by
  rw [put]
  split
  · next i _ =>
      by_cases hi : i < t.toList.length
      · exact List.ne_nil_of_mem (mem_contents.2 (by
          rw [Array.toList_setIfInBounds]
          exact List.mem_set hi (some x)))
      · rwa [contents, Array.toList_setIfInBounds, List.set_eq_of_length_le (Nat.not_lt.1 hi)]
  · exact h

theorem freeInRow?_empty {size slot count : Nat} (h : 0 < count) :
    freeInRow? (empty size) slot count = some slot := by
  obtain ⟨count, rfl⟩ := Nat.exists_eq_add_one.2 h
  rw [freeInRow?, List.range_succ_eq_map, List.map_cons, List.find?_cons_of_pos]
  · rfl
  · rw [Nat.add_zero, empty, Array.getD_eq_getD_getElem?, Array.getElem?_replicate]
    split <;> rfl

theorem freeSlot?_empty {size fuel slot higher : Nat} :
    freeSlot? (empty size) (fuel + 1) slot higher = some slot := by
  rw [freeSlot?]
  simp only []
  rw [freeInRow?_empty]
  split <;> exact Nat.succ_pos _

/-- A table without items takes one. -/
theorem put_empty_ne_nil {size : Nat} (h : 0 < size) : contents (put (empty size) x) ≠ [] := by
  have hsize : (empty size).size = size := Array.size_replicate
  have hslot : x.1.toNat % size < size := Nat.mod_lt _ h
  rw [put, hsize, freeSlot?_empty]
  refine List.ne_nil_of_mem (a := x) (mem_contents.2 ?_)
  rw [Array.toList_setIfInBounds]
  exact List.mem_set (by rwa [Array.length_toList, hsize]) (some x)

theorem foldl_put_ne_nil (h : contents t ≠ []) : contents (vs.foldl put t) ≠ [] := by
  induction vs generalizing t with
  | nil => exact h
  | cons x vs ih => exact ih (put_ne_nil h)

theorem sizeAbove_pos {least fuel size : Nat} (h : 0 < size) : 0 < sizeAbove least fuel size := by
  induction fuel generalizing size with
  | zero => exact h
  | succ fuel ih =>
      rw [sizeAbove]
      split
      · exact ih (Nat.mul_pos (Nat.succ_pos 1) h)
      · exact h

theorem resized_ne_nil {least : Nat} (h : contents t ≠ []) :
    contents (resized t least) ≠ [] := by
  rw [resized]
  cases hitems : contents t with
  | nil => exact absurd hitems h
  | cons x rest =>
      rw [List.foldl_cons]
      exact foldl_put_ne_nil (put_empty_ne_nil (sizeAbove_pos (Nat.succ_pos 7)))

theorem added_ne_nil_of_put {used : Nat} (h : contents (put t x) ≠ []) :
    contents (added t used x) ≠ [] := by
  rw [added]
  split
  · exact resized_ne_nil h
  · exact h

/-- An item added to a table, which counts them. -/
def step (acc : Table × Nat) (x : UInt64 × Value) : Table × Nat :=
  (added acc.1 acc.2 x, acc.2 + 1)

theorem filled_eq_foldl (t : Table) (vs : List (UInt64 × Value)) :
    filled t vs = (vs.foldl step (t, 0)).1 := rfl

theorem mem_of_mem_foldl_step {acc : Table × Nat} (h : y ∈ contents (vs.foldl step acc).1) :
    y ∈ vs ∨ y ∈ contents acc.1 := by
  induction vs generalizing acc with
  | nil => exact .inr h
  | cons x vs ih =>
      obtain h | h := ih h
      · exact .inl (List.mem_cons_of_mem _ h)
      · obtain rfl | h := mem_of_mem_added h
        · exact .inl List.mem_cons_self
        · exact .inr h

theorem foldl_step_ne_nil {acc : Table × Nat} (h : contents acc.1 ≠ []) :
    contents (vs.foldl step acc).1 ≠ [] := by
  induction vs generalizing acc with
  | nil => exact h
  | cons x vs ih => exact ih (added_ne_nil_of_put (put_ne_nil h))

/-- The items of a table that was filled from none are some of those put in, and there are some if
any were. -/
theorem contents_filled_empty {size : Nat} (h : 0 < size) (vs : List (UInt64 × Value)) :
    (∀ y ∈ contents (filled (empty size) vs), y ∈ vs) ∧
      (contents (filled (empty size) vs) = [] ↔ vs = []) := by
  constructor
  · intro y hy
    obtain hy | hy := mem_of_mem_foldl_step hy
    · exact hy
    · rw [contents_empty] at hy
      cases hy
  · constructor
    · intro hnil
      cases vs with
      | nil => rfl
      | cons x vs =>
          rw [filled_eq_foldl, List.foldl_cons] at hnil
          exact absurd hnil (foldl_step_ne_nil (added_ne_nil_of_put (put_empty_ne_nil h)))
    · rintro rfl
      exact contents_empty size

end Slots

open Slots

/-- One list is made of values of another, and of some if there are any. -/
structure IsDrawnFrom (ws vs : List Value) : Prop where
  mem : ∀ v ∈ ws, v ∈ vs
  eq_nil : ws = [] ↔ vs = []

theorem IsDrawnFrom.refl (vs : List Value) : IsDrawnFrom vs vs := ⟨fun _ h => h, .rfl⟩

theorem IsDrawnFrom.trans {us vs ws : List Value} (h : IsDrawnFrom us vs)
    (h' : IsDrawnFrom vs ws) : IsDrawnFrom us ws :=
  ⟨fun v hv => h'.mem v (h.mem v hv), h.eq_nil.trans h'.eq_nil⟩

theorem length_hashes? {vs : List Value} {hs : List UInt64} (h : hashes? vs = some hs) :
    hs.length = vs.length := by
  induction vs generalizing hs with
  | nil =>
      cases h
      rfl
  | cons v vs ih =>
      rw [hashes?] at h
      split at h
      · next _ hs' _ hrest =>
          cases h
          rw [List.length_cons, List.length_cons, ih hrest]
      · cases h

theorem isDrawnFrom_filled {vs : List Value} {hs : List UInt64} {size : Nat}
    (h : hashes? vs = some hs) (hsize : 0 < size) :
    IsDrawnFrom ((contents (filled (empty size) (hs.zip vs))).map Prod.snd) vs := by
  obtain ⟨hsubset, hnil⟩ := contents_filled_empty hsize (hs.zip vs)
  constructor
  · intro v hv
    obtain ⟨⟨h, w⟩, hmem, rfl⟩ := List.mem_map.1 hv
    exact (List.of_mem_zip (hsubset _ hmem)).2
  · rw [List.map_eq_nil_iff, hnil, List.zip_eq_nil_iff, ← List.length_eq_zero_iff,
      length_hashes? h, List.length_eq_zero_iff, or_self]

theorem isDrawnFrom_inSlots (count : Nat) (vs : List Value) :
    IsDrawnFrom (inSlots count vs) vs := by
  rw [inSlots]
  split
  · exact .refl vs
  · next hs hhashes =>
      simp only []
      split
      · exact isDrawnFrom_filled hhashes (sizeAbove_pos (Nat.succ_pos 7))
      · exact isDrawnFrom_filled hhashes (Nat.succ_pos 7)

theorem isDrawnFrom_inSlotsOneByOne (vs : List Value) : IsDrawnFrom (inSlotsOneByOne vs) vs := by
  rw [inSlotsOneByOne]
  split
  · exact .refl vs
  · next hs hhashes => exact isDrawnFrom_filled hhashes (Nat.succ_pos 7)

/-- The value is a text. -/
def isTextual : Value → Bool
  | .text _ => true
  | _ => false

theorem exists_text_of_isTextual {v : Value} (h : v.isTextual = true) : ∃ t, v = .text t := by
  cases v with
  | text t => exact ⟨t, rfl⟩
  | _ => cases h

/-- What a text hashes to is not known. -/
theorem hashes?_of_text {vs : List Value} {t : String} (h : Value.text t ∈ vs) :
    hashes? vs = none := by
  induction vs with
  | nil => cases h
  | cons v vs ih =>
      rw [hashes?]
      obtain rfl | h := List.mem_cons.1 h
      · rfl
      · rw [ih h]
        split
        · next hnone => cases hnone
        · rfl

/-- A set keeps a value that is no text, if there are any. -/
theorem IsDrawnFrom.all_isTextual {vs ws : List Value} (h : IsDrawnFrom ws vs)
    (hkeep : hashes? vs = none → ws = vs) :
    (∀ v ∈ ws, v.isTextual = true) ↔ ∀ v ∈ vs, v.isTextual = true := by
  constructor
  · intro hws v hv
    cases hhashes : hashes? vs with
    | none =>
        rw [hkeep hhashes] at hws
        exact hws v hv
    | some hs =>
        -- No value is a text here, so there is none at all.
        obtain ⟨w, hw⟩ := List.exists_mem_of_ne_nil ws
          (mt h.eq_nil.1 (List.ne_nil_of_mem hv))
        obtain ⟨t, rfl⟩ := exists_text_of_isTextual (hws w hw)
        rw [hashes?_of_text (h.mem _ hw)] at hhashes
        cases hhashes
  · intro hvs w hw
    exact hvs w (h.mem w hw)

theorem inSlots_of_hashes?_eq_none {count : Nat} {vs : List Value} (h : hashes? vs = none) :
    inSlots count vs = vs := by
  rw [inSlots, h]

theorem inSlotsOneByOne_of_hashes?_eq_none {vs : List Value} (h : hashes? vs = none) :
    inSlotsOneByOne vs = vs := by
  rw [inSlotsOneByOne, h]

end Value

end PostQuery
