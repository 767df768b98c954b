import PostQuery.Document
import PostQuery.Proofs.Value.Data
import PostQuery.Proofs.Value.Slots

/-!
# What a document can hold

A loader is safe if all its documents hold data: a node without parts denotes a scalar, only such
nodes do as keys, and everything else is made of the items of other nodes. Every item of such a
document is data as a value.
-/

namespace PostQuery

open Value

/-- All values in the item itself are scalars. -/
def Item.isHeld : Item → Bool
  | .value v => v.isAtomic
  | .list _ | .pairs _ => true
  | .dict entries => entries.all fun e => e.1.isAtomic
  | .set keys => keys.all isAtomic

/-- All items that are there are held by a document. -/
def AreHeld (items : Array (Option Item)) : Prop :=
  ∀ id item, items.getD id none = some item → item.isHeld = true

theorem areHeld_replicate (n : Nat) : AreHeld (Array.replicate n none) := by
  intro id item h
  rw [Array.getD_eq_getD_getElem?, Array.getElem?_replicate] at h
  split at h <;> cases h

theorem AreHeld.set {items : Array (Option Item)} (h : AreHeld items) (id : NodeId) {item : Item}
    (hitem : item.isHeld = true) : AreHeld (items.setIfInBounds id (some item)) := by
  intro id' item' h'
  rw [Array.getD_eq_getD_getElem?, Array.getElem?_setIfInBounds] at h'
  split at h'
  · split at h'
    · cases h'
      exact hitem
    · cases h'
  · exact h id' item' (by rwa [Array.getD_eq_getD_getElem?])

theorem areHeld_of_forall {items : List Item} (h : ∀ item ∈ items, item.isHeld = true) :
    AreHeld (items.map some).toArray := by
  intro id item hitem
  rw [Array.getD_eq_getD_getElem?, List.getElem?_toArray, List.getElem?_map] at hitem
  cases hid : items[id]? with
  | none =>
      rw [hid] at hitem
      cases hitem
  | some item' =>
      rw [hid] at hitem
      cases hitem
      exact h _ (List.mem_of_getElem? hid)

/-- The loader makes documents of data and of nothing else. -/
def Loader.IsSafe (load : Loader) : Prop :=
  ∀ octets d, load octets = .ok d → AreHeld d.items

namespace Document

variable {d : Document}

/-- Every item, as a value, is data. -/
theorem isData_valueWithin (h : AreHeld d.items) (depth : Nat) (outer : List NodeId)
    (id : NodeId) : (d.valueWithin depth outer id).isData = true := by
  induction depth generalizing outer id with
  | zero => rfl
  | succ depth ih =>
      rw [valueWithin]
      split
      · rfl
      · next v hv => exact isData_of_isAtomic (h id _ hv)
      · next keys hkeys =>
          have hall := List.all_eq_true.1 (h id _ hkeys)
          rw [isData, List.all_eq_true]
          exact fun k hk => hall k ((isDrawnFrom_inSlots _ _).mem k hk)
      · split
        · rfl
        · rw [isData, areData_iff, List.forall_mem_map]
          exact fun id' _ => ih _ id'
      · split
        · rfl
        · rw [isData, areData_iff, List.forall_mem_map]
          intro e _
          rw [isData, areData_iff]
          simp [ih]
      · next entries hentries =>
          have hall := List.all_eq_true.1 (h id _ hentries)
          split
          · rfl
          · rw [isData, areDataEntries_iff, List.forall_mem_map]
            exact fun e he => ⟨hall e he, ih _ e.2⟩

theorem isData_value (h : AreHeld d.items) (id : NodeId) : (d.value id).isData = true :=
  isData_valueWithin h _ _ id

end Document

end PostQuery
