import PostQuery.Proofs.Filter.Acceptance

/-!
# A reader used again

All that a reader keeps from one filter to the next is its count of levels, and the count is not
always what it was before. A level is counted before it is compared with the limit, and only a level
that was entered is left again. So a refusal for depth leaves the count one too high, however far
down it happened and whether a filter or the value of a field went too deep: the levels in between
are left one by one on the way up. Nothing else moves it. `Balanced` says this of a step of reading
from any level whatever, and every function of the reader is balanced.

A filter that is not empty starts over from zero, so what was left behind is never read. The last
section puts the two together over any number of filters, each of which is read as if it were the
first.
-/

namespace PostQuery

namespace Filter

/-! ## The balance of the count -/

/-- How far beyond its start the count is left: one level, if it was one that was refused. -/
def Fault.overshoot : Fault → Nat
  | .tooDeep _ => 1
  | _ => 0

def overshoot {α : Type} : Except Fault α → Nat
  | .ok _ => 0
  | .error f => f.overshoot

/-- From every level, the count ends where it started, but for the level that was refused. -/
def Balanced {α : Type} (step : Reading α) : Prop :=
  ∀ level, (step.run level).2 = level + overshoot (step.run level).1

namespace Balanced

variable {α β : Type}

theorem pure (a : α) : Balanced (Pure.pure a) := by
  intro level
  rfl

theorem throw {f : Fault} (h : f.overshoot = 0) :
    Balanced (MonadExcept.throw f : Reading α) := by
  intro level
  show level = level + f.overshoot
  omega

theorem bind {step : Reading α} {next : α → Reading β} (h : Balanced step)
    (hnext : ∀ a, Balanced (next a)) : Balanced (step >>= next) := by
  intro level
  have hstep := h level
  rcases hrun : step.run level with ⟨result, left⟩
  rw [hrun] at hstep
  cases result with
  | ok a =>
      have hleft : left = level := hstep
      rw [run_bind_ok hrun, hleft]
      exact hnext a level
  | error f =>
      rw [run_bind_error hrun]
      exact hstep

/-- One entry and those after it, the way every list is read. -/
theorem cons {first : Reading α} {rest : Reading β} {γ : Type} {g : α → β → γ}
    (h : Balanced first) (hrest : Balanced rest) :
    Balanced (first >>= fun a => rest >>= fun b => Pure.pure (g a b)) :=
  h.bind fun a => hrest.bind fun b => pure (g a b)

/-- The level that is entered is taken back, and the one that is refused is all that remains. -/
theorem deeper {step : Reading α} {limit : Int} (h : Balanced step) :
    Balanced (Filter.deeper limit step) := by
  intro level
  by_cases hl : limit < (level + 1 : Nat)
  · have hrun : (Filter.deeper limit step).run level = (.error (.tooDeep limit), level + 1) :=
      if_pos hl
    rw [hrun]
    rfl
  · have hrun : (Filter.deeper limit step).run level
        = ((step.run (level + 1)).1, (step.run (level + 1)).2 - 1) := if_neg hl
    have hstep := h (level + 1)
    rw [hrun]
    show (step.run (level + 1)).2 - 1 = level + overshoot (step.run (level + 1)).1
    omega

end Balanced

mutual

theorem readField_balanced (rules : Rules) (field value : Value) (negated : Bool) :
    Balanced (readField rules field value negated) := by
  cases value with
  | dict entries =>
      rw [readField.eq_def]
      simp only []
      split
      · exact .throw rfl
      · exact readOperators_balanced rules field entries negated
      · exact .pure _
  | _ =>
      rw [readField.eq_def]
      exact .pure _

theorem readOperators_balanced (rules : Rules) (field : Value) (entries : List (Value × Value))
    (negated : Bool) : Balanced (readOperators rules field entries negated) := by
  match entries with
  | [] =>
      rw [readOperators.eq_def]
      exact .pure _
  | (key, value) :: rest =>
      have hrest := readOperators_balanced rules field rest negated
      rw [readOperators.eq_def]
      simp only []
      cases key with
      | text name =>
          simp only []
          split
          · cases value with
            | dict inner =>
                have hvalue := readField_balanced rules field (.dict inner) (!negated)
                exact hvalue.deeper.cons hrest
            | _ => exact (Balanced.throw rfl).cons hrest
          · split
            · exact (Balanced.pure _).cons hrest
            · exact (Balanced.throw rfl).cons hrest
      | _ => exact (Balanced.throw rfl).cons hrest

end

mutual

/-- Reading the entries of a filter leaves the count where it was, or one level on after a refusal
for depth. -/
theorem readEntries_balanced (rules : Rules) (entries : List (Value × Value)) :
    Balanced (readEntries rules entries) := by
  match entries with
  | [] =>
      rw [readEntries.eq_def]
      exact .pure _
  | (key, value) :: rest =>
      have hrest := readEntries_balanced rules rest
      rw [readEntries.eq_def]
      simp only []
      cases key with
      | text name => exact (readEntry_balanced rules name value).cons hrest
      | _ => exact (Balanced.throw rfl).cons hrest

theorem readEntry_balanced (rules : Rules) (name : String) (value : Value) :
    Balanced (readEntry rules name value) := by
  rw [readEntry.eq_def]
  split
  · cases value with
    | list items => exact .bind (readItems_balanced rules name items) fun parts => .pure _
    | _ => exact .throw rfl
  · split
    · cases value with
      | dict entries =>
          exact .bind (.deeper (readEntries_balanced rules entries)) fun conditions => .pure _
      | _ => exact .throw rfl
    · split
      · split <;> exact .throw rfl
      · exact readField_balanced rules _ value false

theorem readItems_balanced (rules : Rules) (operator : String) (items : List Value) :
    Balanced (readItems rules operator items) := by
  match items with
  | [] =>
      rw [readItems.eq_def]
      exact .pure _
  | item :: rest =>
      have hrest := readItems_balanced rules operator rest
      rw [readItems.eq_def]
      cases item with
      | dict entries =>
          simp only [pure_bind]
          exact (readEntries_balanced rules entries).deeper.cons hrest
      | _ => exact (Balanced.throw rfl).cons hrest

end

theorem readDict_level (rules : Rules) (entries : Dict) :
    (readDict rules entries).2 = overshoot (readDict rules entries).1 := by
  have hread : Balanced (do
      let conditions ← deeper rules.limit (readEntries rules entries)
      Pure.pure (Value.expr (.junction .and) conditions false)) :=
    .bind (.deeper (readEntries_balanced rules entries)) fun conditions => .pure _
  rw [readDict]
  exact (hread 0).trans (Nat.zero_add _)

end Filter

namespace Reader

open PostQuery.Filter

/-! ## One reading -/

/-- The reader as it was made. -/
def fresh (r : Reader) : Reader := { r with level := 0 }

/-- What a filter is read into, or refused for, does not depend on the level the reader was left
on. -/
theorem read_fresh (r : Reader) (v : Value) : (r.read v).1 = (r.fresh.read v).1 := by
  cases htrue : v.truthy with
  | false =>
      rw [read_of_falsy htrue, read_of_falsy htrue]
      rfl
  | true =>
      cases hd : isDict v with
      | false => rw [read_of_not_dict htrue hd, read_of_not_dict htrue hd]
      | true =>
          cases v with
          | dict entries =>
              rw [read_dict htrue, read_dict htrue]
              rfl
          | _ => cases hd

theorem fresh_read (r : Reader) (v : Value) : (r.read v).2.fresh = r.fresh := by
  cases htrue : v.truthy with
  | false => rw [read_of_falsy htrue]
  | true =>
      cases hd : isDict v with
      | false => rw [read_of_not_dict htrue hd]
      | true =>
          cases v with
          | dict entries =>
              rw [read_dict htrue]
              rfl
          | _ => cases hd

theorem level_read_dict (r : Reader) {entries : Dict}
    (h : (Value.dict entries).truthy = true) :
    (r.read (.dict entries)).2.level = overshoot (r.read (.dict entries)).1 := by
  rw [read_dict h]
  exact readDict_level _ _

/-- A tree of a filter that is not empty leaves the reader on level zero. -/
theorem level_read_of_ok {r : Reader} {v t : Value} (htrue : v.truthy = true)
    (h : (r.read v).1 = .ok t) : (r.read v).2.level = 0 := by
  cases hd : isDict v with
  | false =>
      rw [read_of_not_dict htrue hd] at h
      cases h
  | true =>
      cases v with
      | dict entries =>
          rw [level_read_dict r htrue, h]
          rfl
      | _ => cases hd

/-! ## Any number of readings -/

/-- What a reader answers to one filter after the other, each time with the reader afterwards. -/
def readAll (r : Reader) : List Value → List (Except Fault Value × Reader)
  | [] => []
  | v :: vs => r.read v :: (r.read v).2.readAll vs

/-- Whatever was read before, in whichever way it was refused, a reader answers to every filter what
it would have answered as it was made, and after the tree of a filter that is not empty it is back
on level zero. -/
theorem readAll_as_fresh (r : Reader) (vs : List Value) :
    List.Forall₂
      (fun v call => call.1 = (r.fresh.read v).1 ∧
        (v.truthy = true → ∀ t, call.1 = .ok t → call.2.level = 0))
      vs (r.readAll vs) := by
  induction vs generalizing r with
  | nil => exact .nil
  | cons v vs ih =>
      refine .cons ⟨read_fresh r v, fun htrue t ht => level_read_of_ok htrue ht⟩ ?_
      have hrest := ih (r.read v).2
      rw [fresh_read] at hrest
      exact hrest

/-- Two filters that go too deep, the one by its groups and the other by the negations of a field,
both leave a level behind. The filter after them is read all the same. -/
theorem readAll_as_fresh_of_too_deep :
    let r : Reader := { limit := 1 }
    let above := Value.dict [(.text "price", .dict [(.text "$gt", .int 5)])]
    let inside := Value.dict [(.text "$and", .list [above])]
    let denied := Value.dict
      [(.text "price", .dict [(.text "$not", .dict [(.text "$gt", .int 5)])])]
    (r.readAll [inside, denied, above]).map (fun call => call.2.level) = [1, 1, 0] := by
  intro r above inside denied
  have hinside : (r.read inside).2.level = 1 := rfl
  have hdenied : ((r.read inside).2.read denied).2.level = 1 := rfl
  have hall := readAll_as_fresh r [inside, denied, above]
  simp only [readAll, List.forall₂_cons] at hall
  obtain ⟨-, -, ⟨-, hlevel⟩, -⟩ := hall
  rw [readAll, readAll, readAll, readAll]
  simp only [List.map_cons, List.map_nil, hinside, hdenied]
  rw [hlevel (by decide) _ rfl]

end Reader

end PostQuery
