import PostQuery.Proofs.Calendar.Stored
import PostQuery.Proofs.Clause.Compare
import PostQuery.Proofs.Relation.Sorts

/-!
# Cast types and the values they are given with

A post meta clause holds a value and the type that stored values are cast to before they are
compared with it. The value is the normal form of the literal, and the type is found from the
literal itself, so that the two have to be made for each other in two places. Both go through a
sequence item by item, and where the items have one type it is that of all the values.

The two part over members of enumerations. A type is found behind any number of them. A scalar is
what stands behind the first one, and if that is a member again, it is given as a text. So a member
whose value is a member keeps its type and loses its sort, and what has the type of a number can be
a text: `cast_describes_value` has this for its only exception.
-/

namespace PostQuery

/-- The text has the form of the kind, its year being written with up to four digits. -/
def Moment.IsStored (m : Moment) (s : String) : Prop :=
  ∃ n, 1 ≤ n ∧ n ≤ 4 ∧ FitsForm (m.form n) s

namespace Value

namespace CastType

/-- The types of numbers, and of truth values. -/
def isNumber : CastType → Bool
  | .binary | .numeric | .decimal => true
  | _ => false

theorem text_injective : Function.Injective text := by
  intro s t h
  cases s <;> cases t <;> first | rfl | exact absurd h (by decide)

theorem common_eq_iff {ts : List CastType} {t : CastType} (ht : t ≠ .char) :
    common ts = t ↔ ts ≠ [] ∧ ∀ s ∈ ts, s = t := by
  cases ts with
  | nil => simp [common, ht.symm]
  | cons s ts =>
      rw [common]
      constructor
      · intro h
        split at h
        · next hall =>
            simp only [List.all_eq_true, beq_iff_eq] at hall
            subst h
            exact ⟨List.cons_ne_nil _ _, List.forall_mem_cons.2 ⟨rfl, hall⟩⟩
        · exact absurd h.symm ht
      · rintro ⟨-, hall⟩
        obtain ⟨rfl, hall⟩ := List.forall_mem_cons.1 hall
        exact if_pos (by simpa using hall)

end CastType

/-- The value is of the sort that the type is for; for characters there is none. -/
inductive HasCast : CastType → Value → Prop
  | bool (b : Bool) : HasCast .binary (.bool b)
  | int (n : Int) : HasCast .numeric (.int n)
  | float (x : Number.Binary64) : HasCast .decimal (.float x)
  | decimal (d : Number.Decimal) : HasCast .decimal (.decimal d)
  | dateTime {s : String} (h : Moment.dateTime.IsStored s) : HasCast .dateTime (.text s)
  | date {s : String} (h : Moment.date.IsStored s) : HasCast .date (.text s)
  | time {s : String} (h : Moment.time.IsStored s) : HasCast .time (.text s)

/-! ## Items -/

theorem castType_opened (v : Value) : v.opened.castType = v.castType := by
  cases v <;> rfl

theorem isStored_of_scalar_moment {v w : Value} {m : Moment} (h : v.scalar = .ok w)
    (hm : v.opened.moment? = some m) (hreal : v.opened.IsReal) :
    ∃ s, w = .text s ∧ m.IsStored s := by
  obtain ⟨s, hs, hnumerals⟩ := areNumerals_scalar hm hreal
  rw [h] at hs
  cases hs
  obtain ⟨hpos, hle⟩ := yearDigits_bounds hreal
  exact ⟨s, rfl, v.opened.yearDigits, hpos, hle, hnumerals.fitsForm⟩

/-- A single member is opened by both, and what it stands for has the sort of its type. -/
theorem hasCast_of_scalar {v w : Value} (h : v.scalar = .ok w) (hreal : v.opened.IsReal)
    (hnested : v.isNested = false) (hchar : v.castType ≠ .char) : HasCast v.castType w := by
  have hmoment := fun m => isStored_of_scalar_moment (m := m) h
  rw [← castType_opened] at hchar ⊢
  rw [isNested] at hnested
  rw [scalar] at h
  cases hopened : v.opened <;> rw [hopened] at h hreal hnested hchar hmoment
  case member | junction | comparison | mode | context => cases hnested
  case bool | int | float | decimal =>
    cases h
    constructor
  case list | tuple => cases h
  case dateTime =>
    obtain ⟨s, rfl, hs⟩ := hmoment _ rfl hreal
    exact .dateTime hs
  case date =>
    obtain ⟨s, rfl, hs⟩ := hmoment _ rfl hreal
    exact .date hs
  case time =>
    obtain ⟨s, rfl, hs⟩ := hmoment _ rfl hreal
    exact .time hs
  all_goals exact absurd rfl hchar

/-- A member in a member is given as a text, whatever its type. -/
theorem scalar_of_isNested {v w : Value} (h : v.scalar = .ok w) (hnested : v.isNested = true) :
    ∃ s, w = .text s := by
  rw [isNested] at hnested
  rw [scalar] at h
  cases hopened : v.opened <;> rw [hopened] at h hnested <;> try cases hnested
  all_goals
    obtain ⟨s, -, rfl⟩ := map_eq_ok.1 h
    exact ⟨s, rfl⟩

theorem castType_of_hasCast {v w : Value} {t : CastType} (h : v.scalar = .ok w)
    (ht : t.isNumber = true) (hw : HasCast t w) : v.isNested = false ∧ v.castType = t := by
  have htext : ∀ s, w ≠ .text s := by
    rintro s rfl
    cases hw <;> cases ht
  have hnested : v.isNested = false := by
    by_contra hne
    obtain ⟨s, hs⟩ := scalar_of_isNested h (Bool.eq_true_of_not_eq_false hne)
    exact htext s hs
  refine ⟨hnested, ?_⟩
  rw [← castType_opened]
  rw [scalar] at h
  cases hopened : v.opened <;> rw [hopened] at h
  case bool | int | float | decimal =>
    cases h
    cases hw
    rfl
  case dateTime | date | time | text =>
    cases h
    exact absurd rfl (htext _)
  all_goals
    obtain ⟨s, -, rfl⟩ := map_eq_ok.1 h
    exact absurd rfl (htext s)

/-! ## Sequences -/

theorem castTypes_eq_map (vs : List Value) : castTypes vs = vs.map castType := by
  induction vs with
  | nil => rfl
  | cons v vs ih => rw [castTypes, ih, List.map_cons]

/-- A value that is no sequence has the type of a sequence of it alone. -/
theorem castType_eq_common (v : Value) : v.castType = .common (v.asList.map castType) := by
  cases v with
  | list items | tuple items => rw [castType, castTypes_eq_map, asList, sequence?, Option.getD_some]
  | _ => rfl

section Items

variable {items vs : List Value} {t : CastType}

theorem forall_hasCast (h : List.Forall₂ (fun item v => item.scalar = .ok v) items vs)
    (hreal : ∀ item ∈ items, item.opened.IsReal) (hnested : ∀ item ∈ items, item.isNested = false)
    (ht : t ≠ .char) (hall : ∀ item ∈ items, item.castType = t) : ∀ v ∈ vs, HasCast t v := by
  induction h with
  | nil => simp
  | cons hscalar _ ih =>
      obtain ⟨hreal, hreals⟩ := List.forall_mem_cons.1 hreal
      obtain ⟨hnested, hnesteds⟩ := List.forall_mem_cons.1 hnested
      obtain ⟨rfl, hall⟩ := List.forall_mem_cons.1 hall
      exact List.forall_mem_cons.2
        ⟨hasCast_of_scalar hscalar hreal hnested ht, ih hreals hnesteds hall⟩

theorem forall_castType (h : List.Forall₂ (fun item v => item.scalar = .ok v) items vs)
    (ht : t.isNumber = true) (hall : ∀ v ∈ vs, HasCast t v) :
    ∀ item ∈ items, item.isNested = false ∧ item.castType = t := by
  induction h with
  | nil => simp
  | cons hscalar _ ih =>
      obtain ⟨hcast, hall⟩ := List.forall_mem_cons.1 hall
      exact List.forall_mem_cons.2 ⟨castType_of_hasCast hscalar ht hcast, ih hall⟩

end Items

end Value

/-! ## Clauses -/

open Value (CastType HasCast)

/-- The value of a clause is made of the scalars of its literal, whose type is that of the clause. -/
theorem metaClause_value {b : Builder} {kind : Value} {terms : List Value} {negated : Bool}
    {d : Dict} {raw : Value} (hraw : terms.findSome? Value.literal? = some raw)
    (h : b.clause .postMeta (.expr kind terms negated) = .ok d) :
    ∃ w, d.get? (.text "value") = some w ∧ d.get? (.text "type") = some (.text raw.castType.text) ∧
      List.Forall₂ (fun item v => item.scalar = .ok v) raw.asList w.asList := by
  obtain ⟨-, hbuilds⟩ := leaf_eq_ok.1 ((leaf_standard b .postMeta _).trans h)
  cases hbuilds with
  | @intro token _ _ _ _ _ _ hfield hterms htakes _ =>
      obtain ⟨e, rfl⟩ := fieldName?_eq_ok hfield
      rw [hterms.findSome?_literal rfl] at hraw
      subst hraw
      cases htakes with
      | @some _ value hnormal _ =>
          have hscalars := Value.scalars_of_normal hnormal
          refine ⟨if token.takesList then .list value.asList else value, ?_, ?_, ?_⟩
          · simp [Mode.operandEntries, Mode.fieldKey]
          · simp [Mode.operandEntries, Mode.fieldKey]
          · split
            · exact hscalars
            · exact hscalars

/-- The value of a clause is of the sort that its type is for, item by item and with no sequence
empty, if no item of the literal is a member of an enumeration whose value is a member again. For
types of numbers it is so only then. Where all values are of one sort of number, the type is the one
for that sort, without exception. -/
theorem cast_describes_value (b : Builder) (kind : Value) (terms : List Value) (negated : Bool)
    (raw : Value) (d : Dict) (hraw : terms.findSome? Value.literal? = some raw)
    (hreal : ∀ item ∈ raw.asList, item.opened.IsReal)
    (h : b.clause .postMeta (.expr kind terms negated) = .ok d) :
    ∃ w t, d.get? (.text "value") = some w ∧ d.get? (.text "type") = some (.text t.text) ∧
      (t ≠ CastType.char → (∀ item ∈ raw.asList, item.isNested = false) →
        w.asList ≠ [] ∧ ∀ v ∈ w.asList, HasCast t v) ∧
      (t.isNumber = true → (∀ v ∈ w.asList, HasCast t v) →
        ∀ item ∈ raw.asList, item.isNested = false) ∧
      ∀ t' : CastType, t'.isNumber = true → w.asList ≠ [] → (∀ v ∈ w.asList, HasCast t' v) →
        t = t' := by
  obtain ⟨w, hvalue, htype, hscalars⟩ := metaClause_value hraw h
  refine ⟨w, raw.castType, hvalue, htype, ?_, ?_, ?_⟩
  · intro hchar hnested
    obtain ⟨hne, hall⟩ := (CastType.common_eq_iff hchar).1 raw.castType_eq_common.symm
    constructor
    · intro hempty
      rw [hempty, List.forall₂_nil_right_iff] at hscalars
      exact hne (by rw [hscalars, List.map_nil])
    · exact Value.forall_hasCast hscalars hreal hnested hchar (List.forall_mem_map.1 hall)
  · intro hnumber hcasts item hitem
    exact (Value.forall_castType hscalars hnumber hcasts item hitem).1
  · intro t' hnumber hne hcasts
    have hchar : t' ≠ .char := by
      rintro rfl
      cases hnumber
    rw [Value.castType_eq_common, CastType.common_eq_iff hchar, List.forall_mem_map]
    constructor
    · intro hempty
      rw [List.map_eq_nil_iff.1 hempty, List.forall₂_nil_left_iff] at hscalars
      exact hne hscalars
    · intro item hitem
      exact (Value.forall_castType hscalars hnumber hcasts item hitem).2

/-- Days from one that stands behind a member of an enumeration to one that stands for itself. -/
theorem cast_describes_value_between :
    let first := Value.member ⟨"Season", 0⟩ "START" (.date ⟨2024, 3, 1⟩)
    let last := Value.date ⟨2024, 5, 31⟩
    let w := Value.list [.text "2024-03-01", .text "2024-05-31"]
    let d : Dict := [(.text "key", .text "day"), (.text "value", w), (.text "type", .text "DATE"),
      (.text "compare", .text "BETWEEN")]
    let b : Builder := {}
    b.clause .postMeta (.expr (.comparison .between)
        [.field (.text "meta") (.text "day"), .literal (.tuple [first, last])] false) = .ok d ∧
      ∀ v ∈ w.asList, HasCast .date v := by
  intro first last w d b
  have hbuilt : b.clause .postMeta (.expr (.comparison .between)
      [.field (.text "meta") (.text "day"), .literal (.tuple [first, last])] false) = .ok d := by
    refine (Builder.clause_postMeta_eq_ok (Value.isJunctionKind_comparison _)).2 ?_
    cbv
  refine ⟨hbuilt, ?_⟩
  have hitems : ∀ item ∈ (Value.tuple [first, last]).asList,
      item.opened.IsReal ∧ item.isNested = false :=
    List.forall_mem_cons.2 ⟨⟨rfl, rfl⟩, List.forall_mem_cons.2 ⟨⟨rfl, rfl⟩, by simp⟩⟩
  obtain ⟨w', t, hvalue, htype, hcasts, -⟩ := cast_describes_value b _ _ false _ d rfl
    (fun item hitem => (hitems item hitem).1) hbuilt
  have hw : w = w' := by simpa [d] using hvalue
  have ht : CastType.date = t :=
    CastType.text_injective (show "DATE" = t.text by simpa [d] using htype)
  subst hw ht
  exact (hcasts (by decide) fun item hitem => (hitems item hitem).2).2

/-- A member in a member: three is given as a text, and as a number by its type. -/
theorem not_cast_describes_value :
    ¬ ∀ (b : Builder) (kind : Value) (terms : List Value) (negated : Bool) (raw : Value) (d : Dict),
      terms.findSome? Value.literal? = some raw → (∀ item ∈ raw.asList, item.opened.IsReal) →
        b.clause .postMeta (.expr kind terms negated) = .ok d →
          ∃ w t, d.get? (.text "value") = some w ∧ d.get? (.text "type") = some (.text t.text) ∧
            (t ≠ CastType.char → w.asList ≠ [] ∧ ∀ v ∈ w.asList, HasCast t v) := by
  intro h
  let raw := Value.member ⟨"Outer", 0⟩ "TOP" (.member ⟨"Level", 1⟩ "HIGH" (.int 3))
  let d : Dict := [(.text "key", .text "level"), (.text "value", .text "3"),
    (.text "type", .text "NUMERIC"), (.text "compare", .text ">")]
  have hbuilt : ({} : Builder).clause .postMeta (.expr (.comparison .greater)
      [.field (.text "meta") (.text "level"), .literal raw] false) = .ok d := by
    refine (Builder.clause_postMeta_eq_ok (Value.isJunctionKind_comparison _)).2 ?_
    cbv
  have hreal : ∀ item ∈ raw.asList, item.opened.IsReal := List.forall_mem_singleton.2 trivial
  obtain ⟨w, t, hvalue, htype, hcasts⟩ := h {} _ _ false raw d rfl hreal hbuilt
  have hw : w = .text "3" := by simpa [d, eq_comm] using hvalue
  have ht : CastType.numeric = t :=
    CastType.text_injective (show "NUMERIC" = t.text by simpa [d] using htype)
  subst hw ht
  have hcast : HasCast .numeric (.text "3") := (hcasts (by decide)).2 _ (List.mem_singleton_self _)
  cases hcast

end PostQuery
