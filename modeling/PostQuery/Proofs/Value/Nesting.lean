import PostQuery.Proofs.Value.Cast

/-!
# Cast types of nested values

The type of a sequence is found from the types of its items, and an item that is a sequence itself
was given one type before. At each level, items without a common type and items that are not there
make characters, and characters have nothing in common with anything else. So a type other than
that of characters comes up from below only if it is everywhere below: no sequence is empty, and all
scalars have it.

The levels themselves do not show in that. Items may change places, stand there twice or be put in
place of the sequence they are the items of, and anything may be a member of an enumeration or not:
the scalars are the same and no sequence is empty that was not, so the type is the same. Characters
are no exception, since they are the type of whatever has no other.
-/

namespace PostQuery

namespace Value

/-! ## What a value is built from -/

mutual

/-- The scalars that a value is built from, behind members of enumerations and in sequences. -/
def scalarsIn : Value → List Value
  | .member _ _ v => scalarsIn v
  | .list items | .tuple items => scalarsInAll items
  | v => [v.opened]

def scalarsInAll : List Value → List Value
  | [] => []
  | v :: vs => scalarsIn v ++ scalarsInAll vs

end

mutual

/-- No sequence in the value is empty. -/
def isFilled : Value → Bool
  | .member _ _ v => isFilled v
  | .list items | .tuple items => !items.isEmpty && areFilled items
  | _ => true

def areFilled : List Value → Bool
  | [] => true
  | v :: vs => isFilled v && areFilled vs

end

/-- The scalar is of the sort that the type is for; for characters there is none. -/
inductive HasType : CastType → Value → Prop
  | bool (b : Bool) : HasType .binary (.bool b)
  | int (n : Int) : HasType .numeric (.int n)
  | float (x : Number.Binary64) : HasType .decimal (.float x)
  | decimal (d : Number.Decimal) : HasType .decimal (.decimal d)
  | dateTime (d : Date) (t : Clock) (offset : Option Offset) :
      HasType .dateTime (.dateTime d t offset)
  | date (d : Date) : HasType .date (.date d)
  | time (t : Clock) : HasType .time (.time t)

variable {v w : Value} {items items' : List Value}

theorem scalarsInAll_eq_flatMap (vs : List Value) : scalarsInAll vs = vs.flatMap scalarsIn := by
  induction vs with
  | nil => rfl
  | cons v vs ih => rw [scalarsInAll, ih, List.flatMap_cons]

theorem areFilled_iff {vs : List Value} : areFilled vs = true ↔ ∀ v ∈ vs, v.isFilled = true := by
  induction vs with
  | nil => simp [areFilled]
  | cons v vs ih => rw [areFilled, Bool.and_eq_true, ih, List.forall_mem_cons]

theorem scalarsIn_of_sequence (h : v.sequence? = some items) :
    v.scalarsIn = items.flatMap scalarsIn := by
  cases v with
  | list _ | tuple _ =>
      cases h
      rw [scalarsIn, scalarsInAll_eq_flatMap]
  | _ => cases h

theorem isFilled_of_sequence (h : v.sequence? = some items) :
    v.isFilled = true ↔ items ≠ [] ∧ ∀ item ∈ items, item.isFilled = true := by
  cases v with
  | list _ | tuple _ =>
      cases h
      rw [isFilled, Bool.and_eq_true, areFilled_iff, Bool.not_eq_true', List.isEmpty_eq_false_iff]
  | _ => cases h

theorem scalarsIn_opened (v : Value) : v.opened.scalarsIn = v.scalarsIn := by
  cases v <;> rfl

theorem isFilled_opened (v : Value) : v.opened.isFilled = v.isFilled := by
  cases v <;> rfl

/-! ## The type from the scalars -/

section

variable {t : CastType} (ht : t ≠ .char)

include ht

/-- What is known of the items is known of the sequence. -/
theorem common_eq_iff_of_items
    (h : ∀ item ∈ items, item.castType = t ↔
      item.isFilled = true ∧ ∀ u ∈ item.scalarsIn, HasType t u) :
    CastType.common (items.map castType) = t ↔
      (items ≠ [] ∧ ∀ item ∈ items, item.isFilled = true) ∧
        ∀ u ∈ items.flatMap scalarsIn, HasType t u := by
  rw [CastType.common_eq_iff ht, List.forall_mem_map, ne_eq, List.map_eq_nil_iff]
  constructor
  · rintro ⟨hne, hall⟩
    refine ⟨⟨hne, fun item hitem => ((h item hitem).1 (hall item hitem)).1⟩, fun u hu => ?_⟩
    obtain ⟨item, hitem, hu⟩ := List.mem_flatMap.1 hu
    exact ((h item hitem).1 (hall item hitem)).2 u hu
  · rintro ⟨⟨hne, hfilled⟩, hscalars⟩
    refine ⟨hne, fun item hitem => (h item hitem).2 ⟨hfilled item hitem, fun u hu => ?_⟩⟩
    exact hscalars u (List.mem_flatMap.2 ⟨item, hitem, hu⟩)

theorem castType_eq_iff (v : Value) :
    v.castType = t ↔ v.isFilled = true ∧ ∀ u ∈ v.scalarsIn, HasType t u := by
  -- By recursion through members and items; all else is its own only scalar.
  cases v with
  | member _ _ w =>
      rw [castType, isFilled, scalarsIn]
      exact castType_eq_iff w
  | list items | tuple items =>
      rw [castType, castTypes_eq_map, isFilled_of_sequence rfl, scalarsIn_of_sequence rfl]
      exact common_eq_iff_of_items ht fun item _ => castType_eq_iff item
  | bool | int | float | decimal | dateTime | date | time =>
      change _ ↔ true = true ∧ ∀ u ∈ [opened _], HasType t u
      rw [List.forall_mem_singleton]
      constructor
      · rintro rfl
        exact ⟨rfl, by constructor⟩
      · rintro ⟨-, h⟩
        cases h
        rfl
  | _ =>
      change _ ↔ true = true ∧ ∀ u ∈ [opened _], HasType t u
      rw [List.forall_mem_singleton]
      constructor
      · intro h
        exact absurd h.symm ht
      · rintro ⟨-, h⟩
        cases h

end

/-- Types other than that of characters tell two values apart, if anything does. -/
theorem castType_eq_of_forall (h : ∀ t ≠ CastType.char, v.castType = t ↔ w.castType = t) :
    v.castType = w.castType := by
  by_cases hv : v.castType = .char
  · by_contra hne
    exact hne ((h w.castType fun hw => hne (hv.trans hw.symm)).2 rfl)
  · exact ((h v.castType hv).1 rfl).symm

/-! ## Rearranging a value -/

/-- The values are built from the same scalars, in another arrangement: the items of a sequence in
another order, one of them twice, the items of an item in its place, or a member of an enumeration
in place of what it stands for, anywhere in the value and any number of times. -/
inductive Rearranged : Value → Value → Prop
  | refl (v : Value) : Rearranged v v
  | symm {v w : Value} (h : Rearranged v w) : Rearranged w v
  | trans {u v w : Value} (huv : Rearranged u v) (hvw : Rearranged v w) : Rearranged u w
  | permute {v w : Value} {items items' : List Value} (hv : v.sequence? = some items)
      (hw : w.sequence? = some items') (h : items.Perm items') : Rearranged v w
  | duplicate {v w x : Value} {items : List Value} (hv : v.sequence? = some items)
      (hw : w.sequence? = some (x :: items)) (hx : x ∈ items) : Rearranged v w
  | flatten {v w x : Value} {before items after : List Value}
      (hv : v.sequence? = some (before ++ x :: after)) (hx : x.sequence? = some items)
      (hne : items ≠ []) (hw : w.sequence? = some (before ++ items ++ after)) : Rearranged v w
  | wrap (v : Value) : Rearranged v.opened v
  | item {v w x y : Value} {before after : List Value}
      (hv : v.sequence? = some (before ++ x :: after))
      (hw : w.sequence? = some (before ++ y :: after)) (h : Rearranged x y) : Rearranged v w

/-- The values are built from the same scalars, and an empty sequence is in both or in neither. -/
structure BuiltAlike (v w : Value) : Prop where
  scalars : ∀ u, u ∈ v.scalarsIn ↔ u ∈ w.scalarsIn
  filled : v.isFilled = true ↔ w.isFilled = true

theorem BuiltAlike.castType_eq (h : BuiltAlike v w) : v.castType = w.castType := by
  refine castType_eq_of_forall fun t ht => ?_
  simp only [castType_eq_iff ht, h.filled, h.scalars]

/-- How often an item is there, and where, does not matter. -/
theorem builtAlike_of_mem (hv : v.sequence? = some items) (hw : w.sequence? = some items')
    (h : ∀ x, x ∈ items ↔ x ∈ items') : BuiltAlike v w := by
  have hnil : items = [] ↔ items' = [] := by
    simp only [List.eq_nil_iff_forall_not_mem, h]
  constructor
  · intro u
    simp only [scalarsIn_of_sequence hv, scalarsIn_of_sequence hw, List.mem_flatMap, h]
  · simp only [isFilled_of_sequence hv, isFilled_of_sequence hw, ne_eq, hnil, h]

theorem Rearranged.builtAlike (h : Rearranged v w) : BuiltAlike v w := by
  induction h with
  | refl v => exact ⟨fun _ => Iff.rfl, Iff.rfl⟩
  | symm _ ih => exact ⟨fun u => (ih.scalars u).symm, ih.filled.symm⟩
  | trans _ _ ihuv ihvw =>
      exact ⟨fun u => (ihuv.scalars u).trans (ihvw.scalars u), ihuv.filled.trans ihvw.filled⟩
  | permute hv hw hperm => exact builtAlike_of_mem hv hw fun _ => hperm.mem_iff
  | @duplicate v w x items hv hw hx =>
      refine builtAlike_of_mem hv hw fun y => ?_
      rw [List.mem_cons, iff_or_self]
      rintro rfl
      exact hx
  | flatten hv hx hne hw =>
      constructor
      · intro u
        simp only [scalarsIn_of_sequence hv, scalarsIn_of_sequence hw, List.flatMap_append,
          List.flatMap_cons, scalarsIn_of_sequence hx, List.append_assoc]
      · simp only [isFilled_of_sequence hv, isFilled_of_sequence hw, List.forall_mem_append,
          List.forall_mem_cons, isFilled_of_sequence hx]
        simp [hne, and_assoc]
  | wrap v => exact ⟨fun u => by rw [scalarsIn_opened], by rw [isFilled_opened]⟩
  | item hv hw _ ih =>
      constructor
      · intro u
        simp only [scalarsIn_of_sequence hv, scalarsIn_of_sequence hw, List.flatMap_append,
          List.flatMap_cons, List.mem_append, ih.scalars]
      · simp only [isFilled_of_sequence hv, isFilled_of_sequence hw, List.forall_mem_append,
          List.forall_mem_cons, ih.filled]
        simp

end Value

open Value

/-- A value has a given cast type, other than that of characters, exactly if no sequence in it is
empty and all scalars it is built from are of the sort that the type is for. Its cast type stays the
same however the value is rearranged. -/
theorem castType_from_scalars (v : Value) :
    (∀ t : CastType, t ≠ .char →
      (v.castType = t ↔ v.isFilled = true ∧ ∀ u ∈ v.scalarsIn, HasType t u)) ∧
    ∀ w, Rearranged v w → w.castType = v.castType :=
  ⟨fun _ ht => castType_eq_iff ht v, fun _ h => h.builtAlike.castType_eq.symm⟩

/-- Numbers in a pair and behind a member of an enumeration, and the same ones side by side. -/
theorem castType_from_scalars_of_pair :
    let v := Value.list [.member ⟨"Level", 0⟩ "LOW" (.int 1), .tuple [.int 2, .int 3]]
    let w := Value.tuple [.int 2, .int 3, .member ⟨"Level", 0⟩ "LOW" (.int 1)]
    CastType.numeric ≠ .char ∧ (v.isFilled = true ∧ ∀ u ∈ v.scalarsIn, HasType .numeric u) ∧
      Rearranged v w ∧ v.castType = .numeric ∧ w.castType = .numeric := by
  intro v w
  let low := Value.member ⟨"Level", 0⟩ "LOW" (.int 1)
  have hchar : CastType.numeric ≠ .char := by
    decide
  have hscalars : ∀ u ∈ v.scalarsIn, HasType .numeric u :=
    List.forall_mem_cons.2 ⟨.int 1, List.forall_mem_cons.2 ⟨.int 2,
      List.forall_mem_singleton.2 (.int 3)⟩⟩
  have hflat : Rearranged v (.list [low, .int 2, .int 3]) :=
    @Rearranged.flatten _ _ _ [low] _ [] rfl rfl (List.cons_ne_nil _ _) rfl
  have hlast : [low, .int 2, .int 3].Perm [.int 2, .int 3, low] :=
    (List.perm_append_singleton low [.int 2, .int 3]).symm
  have hw : Rearranged v w := hflat.trans (.permute rfl rfl hlast)
  obtain ⟨htype, hsame⟩ := castType_from_scalars v
  have hv := (htype .numeric hchar).2 ⟨rfl, hscalars⟩
  exact ⟨hchar, ⟨rfl, hscalars⟩, hw, hv, (hsame w hw).trans hv⟩

end PostQuery
