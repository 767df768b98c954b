import PostQuery.Value.Equal

/-!
# Values in order

Numbers are in order by what they denote, texts and bytes character by character, dates and times
along the calendar, sequences by the first items that differ, and a set comes before those that hold
more than it. Nothing else can be put in order, and neither can values of different sorts; what is
not a number comes neither before nor after a number, unless a decimal is involved, which makes it
an error.

A list is put in order by taking the run it begins with, turned around if it descends, and placing
every further value behind those that it does not come before, found by halving. Which two values
are compared first decides what is reported of values that have no order.
-/

namespace PostQuery.Value

open Number

namespace Magnitude

/-- Two positive numbers are in order; only numbers with as many digits before the point are brought
to one exponent. -/
def lessPositive (c : Nat) (e : Int) (c' : Nat) (e' : Int) : Bool :=
  let size := digitCount c + e
  let size' := digitCount c' + e'
  if size ≠ size' then size < size'
  else
    let least := min e e'
    c * Nat.pow 10 (e - least).toNat < c' * Nat.pow 10 (e' - least).toNat

/-- Two numbers are in order. -/
def less : Magnitude → Magnitude → Bool
  | .infinite n, .infinite n' => n && !n'
  | .infinite n, .finite .. => n
  | .finite .., .infinite n' => !n'
  | .finite n c e, .finite n' c' e' =>
    if c = 0 then c' ≠ 0 && !n'
    else if c' = 0 then n
    else if n ≠ n' then n
    else if n then lessPositive c' e' c e
    else lessPositive c e c' e'

end Magnitude

/-- The value is a decimal. -/
def isDecimal : Value → Bool
  | .decimal _ => true
  | _ => false

/-- Two values that are neither collections, texts nor dates are in order, if they are numbers. -/
def lessNumeric (v w : Value) : Except Misuse Bool :=
  if v.isNumeric && w.isNumeric then
    match v.number?, w.number? with
    | some a, some b => .ok (a.less b)
    | _, _ => if v.isDecimal || w.isDecimal then .error .signal else .ok false
  else .error (.unordered v w)

/-- Two lists of numbers are in order by the first that differ. -/
def lessFields {α : Type} [LT α] [DecidableLT α] [DecidableEq α] : List α → List α → Bool
  | x :: xs, y :: ys => if x = y then lessFields xs ys else x < y
  | xs, ys => xs.length < ys.length

/-- The fields of a date from the year down. -/
def dateOrder (d : Date) : List Nat := [d.year, d.month, d.day]

/-- The fields of a time of day from the hour down. -/
def clockOrder (t : Clock) : List Nat := [t.hour, t.minute, t.second, t.microsecond]

mutual

/-- The first value comes before the second. -/
def less : Value → Value → Except Misuse Bool
  | .text s, .text t => .ok (s < t)
  | .bytes a, .bytes b | .bytes a, .buffer b | .buffer a, .bytes b | .buffer a, .buffer b =>
    .ok (lessFields a b)
  | .date d, .date d' => .ok (lessFields (dateOrder d) (dateOrder d'))
  | .date _, .dateTime .. | .dateTime .., .date _ => .error .datesDiffer
  | .dateTime d t o, .dateTime d' t' o' =>
    match o, o' with
    | none, none => .ok (lessFields (dateOrder d ++ clockOrder t) (dateOrder d' ++ clockOrder t'))
    | some o, some o' => .ok (lessFields (instant d t o) (instant d' t' o'))
    | _, _ => .error .offsetsDiffer
  | .time t, .time t' => .ok (lessFields (clockOrder t) (clockOrder t'))
  | .list xs, .list ys | .tuple xs, .tuple ys => lessAll xs ys
  | .set xs, .set ys | .set xs, .fixedSet ys | .fixedSet xs, .set ys | .fixedSet xs, .fixedSet ys =>
    .ok (xs.length < ys.length && equalWithin xs ys)
  | v, w => lessNumeric v w

/-- The first of two lists comes before the second: its first item that differs does, or it is the
shorter one. -/
def lessAll : List Value → List Value → Except Misuse Bool
  | x :: xs, y :: ys => do if ← same x y then lessAll xs ys else less x y
  | xs, ys => .ok (xs.length < ys.length)

end

/-- The place of a value among values in order, between two places: behind all that it does not come
before. -/
def placeOf (v : Value) (vs : Array Value) (low high : Nat) : Except Misuse Nat :=
  if h : low < high then do
    let middle := low + (high - low) / 2
    if ← less v (vs.getD middle .null) then placeOf v vs low middle
    else placeOf v vs (middle + 1) high
  else .ok low
termination_by high - low

/-- Values in order with a further one at its place. -/
def placed (vs : Array Value) (v : Value) : Except Misuse (Array Value) := do
  let place ← placeOf v vs 0 vs.size
  pure (vs.extract 0 place ++ #[v] ++ vs.extract place vs.size)

/-- How many values continue a run that has come to the given value, each coming before the one
ahead of it in a descending run and none in any other. -/
def runLength (descending : Bool) : Value → List Value → Except Misuse Nat
  | _, [] => .ok 0
  | v, w :: ws => do
    if (← less w v) == descending then
      let n ← runLength descending w ws
      pure (n + 1)
    else pure 0

/-- Values in order. -/
def sorted : List Value → Except Misuse (List Value)
  | v :: w :: ws => do
    let descending ← less w v
    let n ← runLength descending w ws
    let run := v :: w :: ws.take n
    let run := if descending then run.reverse else run
    let all ← (ws.drop n).foldlM placed run.toArray
    pure all.toList
  | vs => .ok vs

end PostQuery.Value
