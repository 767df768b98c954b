import PostQuery.Proofs.Calendar.Numeral
import PostQuery.Value.Normal
import PostQuery.Value.Order

/-!
# Stored dates

A date, a time of day or both are put into query arguments as a text, and conditions on a range of
them rely on the texts being in the order of the dates. They are if all fields have a width of their
own. Months, days, hours, minutes and seconds do, being padded to two digits; the year is written as
it is. So what is stored has the form of its kind exactly if its year has four digits, and among
such dates the texts compare as the dates do.

The offset of a date with a time is not stored. Where two of them have different offsets the texts
show the order of their local times only.
-/

namespace PostQuery

/-! ## Days and times of day -/

namespace Date

/-- The fields are those of a day of the calendar. -/
def IsReal (d : Date) : Prop := make d.year d.month d.day = .ok d

theorem IsReal.bounds {d : Date} (h : d.IsReal) :
    1 ≤ d.year ∧ d.year ≤ 9999 ∧ 1 ≤ d.month ∧ d.month ≤ 12 ∧ 1 ≤ d.day ∧
      d.day ≤ monthLength d.year d.month := by
  simp only [IsReal, make, Bool.or_eq_true, decide_eq_true_eq] at h
  by_cases hyear : d.year < 1 ∨ 9999 < d.year
  · simp only [hyear, if_true, reduceCtorEq] at h
  by_cases hmonth : d.month < 1 ∨ 12 < d.month
  · simp only [hyear, hmonth, if_true, if_false, reduceCtorEq] at h
  by_cases hday : d.day < 1 ∨ monthLength d.year d.month < d.day
  · simp only [hyear, hmonth, hday, if_true, if_false, reduceCtorEq] at h
  omega

theorem monthLength_le (year month : Nat) : monthLength year month ≤ 31 := by
  rw [monthLength]
  split
  · split <;> omega
  · split <;> omega

/-- How many days of a year lie before its month of a number, counted from zero. -/
def daysBeforeMonth (year month : Nat) : Nat :=
  ((List.range month).map fun m => monthLength year (m + 1)).sum

theorem ordinal_eq (d : Date) :
    d.ordinal = daysBefore d.year + daysBeforeMonth d.year (d.month - 1) + d.day := rfl

theorem daysBeforeMonth_succ (year month : Nat) :
    daysBeforeMonth year (month + 1) = daysBeforeMonth year month + monthLength year (month + 1) :=
  List.sum_range_succ _ month

theorem daysBeforeMonth_mono (year : Nat) : Monotone (daysBeforeMonth year) :=
  monotone_nat_of_le_succ fun month => by rw [daysBeforeMonth_succ]; omega

theorem daysBefore_succ {year : Nat} (h : 1 ≤ year) :
    daysBefore (year + 1) = daysBefore year + daysBeforeMonth year 12 := by
  have hyear : daysBeforeMonth year 12 = if isLeap year then 366 else 365 := by
    cases hleap : isLeap year <;>
      simp [daysBeforeMonth, List.range_succ, monthLength, hleap]
  -- the three quotients grow exactly where the year is divisible
  obtain ⟨y, rfl⟩ : ∃ y, year = y + 1 := ⟨year - 1, by omega⟩
  have hcentury := Nat.div_le_self y 100
  simp only [hyear, daysBefore, isLeap, Nat.add_sub_cancel, Nat.succ_div, Bool.and_eq_true,
    Bool.or_eq_true, beq_iff_eq, bne_iff_ne, ne_eq, ← Nat.dvd_iff_mod_eq_zero]
  generalize y / 4 = a, y / 100 = b, y / 400 = c at *
  by_cases d4 : 4 ∣ y + 1
  · by_cases d100 : 100 ∣ y + 1
    · by_cases d400 : 400 ∣ y + 1 <;> simp [d4, d100, d400] <;> omega
    · have d400 : ¬ 400 ∣ y + 1 := fun h => d100 (Nat.dvd_trans (by omega) h)
      simp [d4, d100, d400]
      omega
  · have d100 : ¬ 100 ∣ y + 1 := fun h => d4 (Nat.dvd_trans (by omega) h)
    have d400 : ¬ 400 ∣ y + 1 := fun h => d4 (Nat.dvd_trans (by omega) h)
    simp [d4, d100, d400]
    omega

theorem daysBefore_mono {year year' : Nat} (h : 1 ≤ year) (hle : year ≤ year') :
    daysBefore year ≤ daysBefore year' := by
  induction year', hle using Nat.le_induction with
  | base => exact Nat.le_refl _
  | succ y hy ih =>
      rw [daysBefore_succ (by omega)]
      omega

/-- A later day has a greater number: the days of a year end before the next year begins, and those
of a month before the next month does. -/
theorem ordinal_lt {d d' : Date} (h : d.IsReal) (h' : d'.IsReal)
    (hlt : Value.dateOrder d < Value.dateOrder d') : d.ordinal < d'.ordinal := by
  obtain ⟨hyear, -, hmonth, hmonth', hday, hday'⟩ := h.bounds
  obtain ⟨-, -, -, -, hpositive, -⟩ := h'.bounds
  have hmonthEnd :
      daysBeforeMonth d.year (d.month - 1) + d.day ≤ daysBeforeMonth d.year d.month := by
    obtain ⟨m, hm⟩ : ∃ m, d.month = m + 1 := ⟨d.month - 1, by omega⟩
    rw [hm] at hday' ⊢
    rw [Nat.add_sub_cancel, daysBeforeMonth_succ]
    omega
  rw [ordinal_eq, ordinal_eq]
  simp only [Value.dateOrder, List.cons_lt_cons_iff, List.not_lt_nil, and_false, or_false] at hlt
  rcases hlt with hyears | ⟨hyears, hmonths | ⟨hmonths, hdays⟩⟩
  · have hyearEnd := daysBeforeMonth_mono d.year hmonth'
    have hnext := daysBefore_mono (by omega) (Nat.succ_le_of_lt hyears)
    rw [Nat.succ_eq_add_one, daysBefore_succ hyear] at hnext
    omega
  · have hnext := daysBeforeMonth_mono d.year (Nat.le_sub_one_of_lt hmonths)
    rw [hyears] at hmonthEnd hnext ⊢
    omega
  · rw [hyears, hmonths]
    omega

theorem ordinal_lt_iff {d d' : Date} (h : d.IsReal) (h' : d'.IsReal) :
    d.ordinal < d'.ordinal ↔ Value.dateOrder d < Value.dateOrder d' := by
  constructor
  · intro hlt
    rcases lt_trichotomy (Value.dateOrder d) (Value.dateOrder d') with hlt' | heq | hgt
    · exact hlt'
    · cases d
      cases d'
      cases heq
      omega
    · have := ordinal_lt h' h hgt
      omega
  · exact ordinal_lt h h'

end Date

/-- The fields are those of a time of day. -/
def Clock.IsReal (t : Clock) : Prop := make t.hour t.minute t.second t.microsecond = .ok t

theorem Clock.IsReal.bounds {t : Clock} (h : t.IsReal) :
    t.hour < 24 ∧ t.minute < 60 ∧ t.second < 60 := by
  rw [IsReal, make] at h
  by_cases hhour : 23 < t.hour
  · simp [hhour] at h
  by_cases hminute : 59 < t.minute
  · simp [hhour, hminute] at h
  by_cases hsecond : 59 < t.second
  · simp [hhour, hminute, hsecond] at h
  omega

/-- The time of day without its microseconds. -/
def Clock.toSecond (t : Clock) : Clock := { t with microsecond := 0 }

/-! ## Moments -/

/-- The kinds of value that are stored as a date, a time of day or both. -/
inductive Moment where
  | dateTime
  | date
  | time

namespace Moment

def widths (yearDigits : Nat) : Moment → List Nat
  | .dateTime => [yearDigits, 2, 2, 2, 2, 2]
  | .date => [yearDigits, 2, 2]
  | .time => [2, 2, 2]

def marks : Moment → List Char
  | .dateTime => ['-', '-', ' ', ':', ':']
  | .date => ['-', '-']
  | .time => [':', ':']

/-- The form of a stored text whose year has so many digits. -/
def form (m : Moment) (yearDigits : Nat) : String :=
  String.ofList (noughts (m.widths yearDigits) m.marks)

example : Moment.dateTime.form 4 = "0000-00-00 00:00:00" := rfl

def ofFields? (m : Moment) (offset : Option Offset) (fields : List Nat) : Option Value :=
  match m, fields with
  | .dateTime, [year, month, day, hour, minute, second] => do
    let d ← (Date.make year month day).toOption
    let t ← (Clock.make hour minute second 0).toOption
    some (.dateTime d t offset)
  | .date, [year, month, day] => (Date.make year month day).toOption.map .date
  | .time, [hour, minute, second] => (Clock.make hour minute second 0).toOption.map .time
  | _, _ => none

/-- The value that a text of the kind's form with a year of four digits was stored for. The offset
has to be known. -/
def read? (m : Moment) (offset : Option Offset) (s : String) : Option Value :=
  m.ofFields? offset (columns (m.widths 4) s.toList)

end Moment

namespace Value

def moment? : Value → Option Moment
  | .dateTime .. => some .dateTime
  | .date _ => some .date
  | .time _ => some .time
  | _ => none

def offset? : Value → Option Offset
  | .dateTime _ _ offset => offset
  | _ => none

/-- The fields of a date or time are those of the calendar. -/
def IsReal : Value → Prop
  | .dateTime d t _ => d.IsReal ∧ t.IsReal
  | .date d => d.IsReal
  | .time t => t.IsReal
  | _ => True

/-- The year, if there is one, is not before the year 1000. -/
def HasLongYear : Value → Prop
  | .dateTime d _ _ | .date d => 1000 ≤ d.year
  | _ => True

/-- A date or time without its microseconds. -/
def toSecond : Value → Value
  | .dateTime d t offset => .dateTime d t.toSecond offset
  | .time t => .time t.toSecond
  | v => v

/-- How many digits are written of the year; a time of day has no year that could be short. -/
def yearDigits : Value → Nat
  | .dateTime d _ _ | .date d => Number.digitCount d.year
  | _ => 4

def clockFields (t : Clock) : List Nat := [t.hour, t.minute, t.second]

/-- The numbers that are stored of a date or time. -/
def storedFields : Value → List Nat
  | .dateTime d t _ => dateOrder d ++ clockFields t
  | .date d => dateOrder d
  | .time t => clockFields t
  | _ => []

end Value

/-! ## The stored text -/

theorem Date.areNumerals_storedText {d : Date} (h : d.IsReal) :
    AreNumerals [Number.digitCount d.year, 2, 2] ['-', '-'] (Value.dateOrder d)
      d.storedText.toList := by
  obtain ⟨-, -, -, hmonth, -, hday⟩ := h.bounds
  have hlength := monthLength_le d.year d.month
  have h : AreNumerals [Number.digitCount d.year, 2, 2] ['-', '-'] [d.year, d.month, d.day]
      ((unpadded d.year).toList ++ '-' :: ((padded 2 d.month).toList ++ '-' ::
        (padded 2 d.day).toList)) :=
    .cons (isNumeral_unpadded d.year)
      (.cons (isNumeral_padded_two (by omega)) (.last (isNumeral_padded_two (by omega))))
  simpa [storedText, Value.dateOrder] using h

theorem Clock.areNumerals_storedText {t : Clock} (h : t.IsReal) :
    AreNumerals [2, 2, 2] [':', ':'] (Value.clockFields t) t.storedText.toList := by
  obtain ⟨hhour, hminute, hsecond⟩ := h.bounds
  have h : AreNumerals [2, 2, 2] [':', ':'] [t.hour, t.minute, t.second]
      ((padded 2 t.hour).toList ++ ':' :: ((padded 2 t.minute).toList ++ ':' ::
        (padded 2 t.second).toList)) :=
    .cons (isNumeral_padded_two (by omega))
      (.cons (isNumeral_padded_two (by omega)) (.last (isNumeral_padded_two (by omega))))
  simpa [storedText, Value.clockFields] using h

namespace Value

theorem areNumerals_scalar {v : Value} {m : Moment} (hm : v.opened.moment? = some m)
    (hreal : v.opened.IsReal) :
    ∃ s, v.scalar = .ok (.text s) ∧
      AreNumerals (m.widths v.opened.yearDigits) m.marks v.opened.storedFields s.toList := by
  rw [scalar]
  cases hopened : v.opened <;> rw [hopened] at hm hreal <;> cases hm
  case dateTime d t offset =>
    refine ⟨_, rfl, ?_⟩
    rw [String.toList_append, String.toList_append, List.append_assoc]
    exact (Date.areNumerals_storedText hreal.1).append ' ' (Clock.areNumerals_storedText hreal.2)
  case date d => exact ⟨_, rfl, Date.areNumerals_storedText hreal⟩
  case time t => exact ⟨_, rfl, Clock.areNumerals_storedText hreal⟩

theorem exists_normal_of_moment? {v : Value} {m : Moment} (hm : v.moment? = some m)
    (hreal : v.IsReal) :
    ∃ s, v.normal = .ok (.text s) ∧
      AreNumerals (m.widths v.yearDigits) m.marks v.storedFields s.toList := by
  have hopened : v.opened = v := by cases v <;> first | rfl | cases hm
  have hnormal : v.normal = v.scalar := by cases v <;> first | rfl | cases hm
  rw [← hopened] at hm hreal
  obtain ⟨s, hs, h⟩ := areNumerals_scalar hm hreal
  rw [hopened] at h
  exact ⟨s, hnormal.trans hs, h⟩

/-! ## Order of the values -/

theorem lessFields_eq {α : Type} [LinearOrder α] (xs ys : List α) (h : xs.length = ys.length) :
    lessFields xs ys = decide (xs < ys) := by
  induction xs generalizing ys with
  | nil =>
      cases ys with
      | nil => simp [lessFields]
      | cons => cases h
  | cons x xs ih =>
      cases ys with
      | nil => cases h
      | cons y ys =>
          rw [lessFields, ih ys (Nat.succ.inj h)]
          by_cases hxy : x = y <;> simp [hxy, List.cons_lt_cons_iff]

/-- With the same offset the instants are in the order of the local times. -/
theorem instant_lt_iff {d d' : Date} {t t' : Clock} (h : d.IsReal) (h' : d'.IsReal)
    (ht : t.IsReal) (ht' : t'.IsReal) (offset : Offset) :
    instant d t.toSecond offset < instant d' t'.toSecond offset ↔
      dateOrder d ++ clockFields t < dateOrder d' ++ clockFields t' := by
  obtain ⟨hhour, hminute, hsecond⟩ := ht.bounds
  obtain ⟨hhour', hminute', hsecond'⟩ := ht'.bounds
  have hlt := Date.ordinal_lt_iff h h'
  have heq := eq_iff_of_lt_iff hlt (Date.ordinal_lt_iff h' h)
  have hlength : (dateOrder d).length = (dateOrder d').length := rfl
  rw [append_lt_append_iff hlength, ← hlt, ← heq, instant, instant]
  simp only [Clock.toSecond, clockFields, List.cons_lt_cons_iff, List.not_lt_nil, and_false,
    or_false]
  omega

theorem less_toSecond {v w : Value} {m : Moment} (hv : v.moment? = some m)
    (hw : w.moment? = some m) (hreal : v.IsReal) (hreal' : w.IsReal)
    (hoffset : v.offset? = w.offset?) :
    less v.toSecond w.toSecond = .ok (decide (v.storedFields < w.storedFields)) := by
  have hdrop : ∀ xs ys : List Nat, xs.length = ys.length →
      lessFields (xs ++ [0]) (ys ++ [0]) = decide (xs < ys) := by
    intro xs ys h
    rw [lessFields_eq _ _ (by simp [h])]
    simp [append_lt_append_iff h]
  cases v <;> cases hv <;> cases w <;> cases hw
  case dateTime d t offset d' t' offset' =>
    change offset = offset' at hoffset
    subst hoffset
    cases offset with
    | none =>
        exact congrArg Except.ok
          (hdrop (dateOrder d ++ clockFields t) (dateOrder d' ++ clockFields t') rfl)
    | some offset =>
        have hless := lessFields_eq (instant d t.toSecond offset) (instant d' t'.toSecond offset)
          (by simp [instant])
        refine congrArg Except.ok (hless.trans (decide_eq_decide.2 ?_))
        exact instant_lt_iff hreal.1 hreal'.1 hreal.2 hreal'.2 offset
  case date d d' => exact congrArg Except.ok (lessFields_eq (dateOrder d) (dateOrder d') rfl)
  case time t t' => exact congrArg Except.ok (hdrop (clockFields t) (clockFields t') rfl)

theorem equal_toSecond {v w : Value} {m : Moment} (hv : v.moment? = some m)
    (hw : w.moment? = some m) (hreal : v.IsReal) (hreal' : w.IsReal)
    (hoffset : v.offset? = w.offset?) :
    equal v.toSecond w.toSecond = .ok (decide (v.storedFields = w.storedFields)) := by
  have hdate : ∀ d d' : Date, d = d' ↔ dateOrder d = dateOrder d' := by
    rintro ⟨⟩ ⟨⟩
    simp [dateOrder]
  have hclock : ∀ t t' : Clock, t.toSecond = t'.toSecond ↔ clockFields t = clockFields t' := by
    rintro ⟨⟩ ⟨⟩
    simp [Clock.toSecond, clockFields]
  cases v <;> cases hv <;> cases w <;> cases hw
  case dateTime d t offset d' t' offset' =>
    change offset = offset' at hoffset
    subst hoffset
    change equal (.dateTime d t.toSecond offset) (.dateTime d' t'.toSecond offset) = _
    rw [equal]
    cases offset with
    | none =>
        have happend : dateOrder d ++ clockFields t = dateOrder d' ++ clockFields t' ↔
            dateOrder d = dateOrder d' ∧ clockFields t = clockFields t' := by
          simp [dateOrder, and_assoc]
        simp [sameMoment, hdate, hclock, storedFields, happend]
    | some offset =>
        have hlt := instant_lt_iff hreal.1 hreal'.1 hreal.2 hreal'.2 offset
        have hgt := instant_lt_iff hreal'.1 hreal.1 hreal'.2 hreal.2 offset
        refine congrArg Except.ok (Bool.eq_iff_iff.2 ?_)
        rw [sameMoment, beq_iff_eq, decide_eq_true_iff]
        exact eq_iff_of_lt_iff hlt hgt
  case date d d' =>
    change equal (.date d) (.date d') = _
    rw [equal]
    exact congrArg Except.ok (decide_eq_decide.2 (hdate d d'))
  case time t t' =>
    change equal (.time t.toSecond) (.time t'.toSecond) = _
    rw [equal]
    exact congrArg Except.ok (decide_eq_decide.2 (hclock t t'))

/-! ## Form and order -/

theorem digitCount_year {d : Date} (h : d.IsReal) :
    1 ≤ Number.digitCount d.year ∧ Number.digitCount d.year ≤ 4 ∧
      (Number.digitCount d.year = 4 ↔ 1000 ≤ d.year) := by
  obtain ⟨-, hyear, -⟩ := h.bounds
  have hsome := Nat.length_toDigits_pos (b := 10) (n := d.year)
  have hfour := Nat.length_toDigits_le_iff (b := 10) (k := 4) (n := d.year) (by omega) (by omega)
  have hthree := Nat.length_toDigits_le_iff (b := 10) (k := 3) (n := d.year) (by omega) (by omega)
  rw [Number.digitCount, Number.digits]
  omega

theorem yearDigits_bounds {v : Value} (hreal : v.IsReal) : 1 ≤ v.yearDigits ∧ v.yearDigits ≤ 4 := by
  cases v with
  | dateTime d t offset => exact ⟨(digitCount_year hreal.1).1, (digitCount_year hreal.1).2.1⟩
  | date d => exact ⟨(digitCount_year hreal).1, (digitCount_year hreal).2.1⟩
  | _ => exact ⟨Nat.le_add_left 1 3, Nat.le_refl 4⟩

theorem yearDigits_eq_four_iff {v : Value} (hreal : v.IsReal) :
    v.yearDigits = 4 ↔ v.HasLongYear := by
  cases v with
  | dateTime d t offset => exact (digitCount_year hreal.1).2.2
  | date d => exact (digitCount_year hreal).2.2
  | _ => exact iff_of_true rfl trivial

theorem read?_of_areNumerals {v : Value} {m : Moment} {s : String} (hm : v.moment? = some m)
    (hreal : v.IsReal) (h : AreNumerals (m.widths 4) m.marks v.storedFields s.toList) :
    m.read? v.offset? s = some v.toSecond := by
  have hclock : ∀ t : Clock, t.IsReal → Clock.make t.hour t.minute t.second 0 = .ok t.toSecond := by
    intro t ht
    obtain ⟨hhour, hminute, hsecond⟩ := ht.bounds
    rw [Clock.make, if_neg (by omega), if_neg (by omega), if_neg (by omega), Clock.toSecond]
  rw [Moment.read?, h.columns_eq]
  cases v <;> cases hm
  case dateTime d t offset =>
    change ((Date.make d.year d.month d.day).toOption.bind fun d' =>
      (Clock.make t.hour t.minute t.second 0).toOption.bind fun t' =>
        some (dateTime d' t' offset)) = _
    rw [hreal.1, hclock t hreal.2]
    rfl
  case date d =>
    change (Date.make d.year d.month d.day).toOption.map date = _
    rw [show Date.make d.year d.month d.day = .ok d from hreal]
    rfl
  case time t =>
    change (Clock.make t.hour t.minute t.second 0).toOption.map time = _
    rw [hclock t hreal]
    rfl

theorem form_length (m : Moment) (n : Nat) :
    (m.form n).toList.length = (m.widths n).sum + m.marks.length := by
  cases m <;> simp [Moment.form, noughts, Moment.widths, Moment.marks]

theorem fitsForm_iff {v : Value} {m : Moment} {s : String} (hm : v.moment? = some m)
    (h : AreNumerals (m.widths v.yearDigits) m.marks v.storedFields s.toList) :
    FitsForm (m.form 4) s ↔ v.yearDigits = 4 := by
  constructor
  · intro hfits
    have hlength := hfits.length_eq
    rw [form_length, h.length_eq] at hlength
    cases v <;> cases hm <;> simp [Moment.widths, yearDigits] at hlength ⊢ <;> omega
  · intro hdigits
    rw [hdigits] at h
    exact h.fitsForm

end Value

/-- What is stored of a date, a time of day or both has the form of its kind, with all fields
padded, exactly if the year has four digits. It can then be read back to the second, and two such
texts compare as what they were stored for, given that the offsets are the same. -/
theorem stored_in_order (m : Moment) (v w : Value) (hv : v.moment? = some m)
    (hw : w.moment? = some m) (hreal : v.IsReal) (hreal' : w.IsReal) :
    ∃ s t, v.normal = .ok (.text s) ∧ w.normal = .ok (.text t) ∧
      (FitsForm (m.form 4) s ↔ v.HasLongYear) ∧
      (v.HasLongYear → m.read? v.offset? s = some v.toSecond) ∧
      (v.HasLongYear → w.HasLongYear → v.offset? = w.offset? →
        Value.less (.text s) (.text t) = Value.less v.toSecond w.toSecond ∧
        Value.equal (.text s) (.text t) = Value.equal v.toSecond w.toSecond) := by
  obtain ⟨s, hs, hnumerals⟩ := Value.exists_normal_of_moment? hv hreal
  obtain ⟨t, ht, hnumerals'⟩ := Value.exists_normal_of_moment? hw hreal'
  have hdigits := Value.yearDigits_eq_four_iff hreal
  have hdigits' := Value.yearDigits_eq_four_iff hreal'
  refine ⟨s, t, hs, ht, (Value.fitsForm_iff hv hnumerals).trans hdigits, ?_, ?_⟩
  · intro hlong
    rw [hdigits.2 hlong] at hnumerals
    exact Value.read?_of_areNumerals hv hreal hnumerals
  · intro hlong hlong' hoffset
    rw [hdigits.2 hlong] at hnumerals
    rw [hdigits'.2 hlong'] at hnumerals'
    rw [Value.less_toSecond hv hw hreal hreal' hoffset,
      Value.equal_toSecond hv hw hreal hreal' hoffset, Value.equal]
    refine ⟨congrArg Except.ok (decide_eq_decide.2 ?_), congrArg Except.ok ?_⟩
    · rw [String.lt_iff_toList_lt]
      exact hnumerals.lt_iff hnumerals'
    · rw [Bool.eq_iff_iff, beq_iff_eq, decide_eq_true_iff, ← String.toList_inj]
      exact hnumerals.eq_iff hnumerals'

/-- The last second of a year and the first of the next. -/
theorem stored_in_order_at_new_year :
    let v := Value.dateTime ⟨2023, 12, 31⟩ ⟨23, 59, 59, 999999⟩ (some 60)
    let w := Value.dateTime ⟨2024, 1, 1⟩ ⟨0, 0, 0, 0⟩ (some 60)
    v.normal = .ok (.text "2023-12-31 23:59:59") ∧ w.normal = .ok (.text "2024-01-01 00:00:00") ∧
      FitsForm "0000-00-00 00:00:00" "2023-12-31 23:59:59" ∧
      Value.less (.text "2023-12-31 23:59:59") (.text "2024-01-01 00:00:00")
        = Value.less v.toSecond w.toSecond := by
  intro v w
  obtain ⟨s, t, hs, ht, hform, -, horder⟩ :=
    stored_in_order .dateTime v w rfl rfl ⟨rfl, rfl⟩ ⟨rfl, rfl⟩
  have hlong : v.HasLongYear := show 1000 ≤ 2023 by omega
  have hlong' : w.HasLongYear := show 1000 ≤ 2024 by omega
  have hv : v.normal = .ok (.text "2023-12-31 23:59:59") := by cbv
  have hw : w.normal = .ok (.text "2024-01-01 00:00:00") := by cbv
  rw [hv] at hs
  rw [hw] at ht
  cases hs
  cases ht
  exact ⟨hv, hw, hform.2 hlong, (horder hlong hlong' rfl).1⟩

/-- A day of the year 999 is stored with nine characters, behind all days of the year 1000. -/
theorem not_stored_in_order :
    ¬ ∀ (m : Moment) (v w : Value), v.moment? = some m → w.moment? = some m → v.IsReal →
      w.IsReal → v.offset? = w.offset? →
        ∃ s t, v.normal = .ok (.text s) ∧ w.normal = .ok (.text t) ∧ FitsForm (m.form 4) s ∧
          m.read? v.offset? s = some v.toSecond ∧
          Value.less (.text s) (.text t) = Value.less v.toSecond w.toSecond := by
  intro h
  obtain ⟨s, t, hs, ht, hform, -, horder⟩ :=
    h .date (.date ⟨999, 1, 2⟩) (.date ⟨1000, 1, 1⟩) rfl rfl rfl rfl rfl
  have hv : (Value.date ⟨999, 1, 2⟩).normal = .ok (.text "999-01-02") := by cbv
  have hw : (Value.date ⟨1000, 1, 1⟩).normal = .ok (.text "1000-01-01") := by cbv
  rw [hv] at hs
  rw [hw] at ht
  cases hs
  cases ht
  exact absurd hform.length_eq (by decide)

end PostQuery
