import PostQuery.Number.Binary64

/-!
# The shortest decimal that reads back

Of the decimals that round to a given binary number, those with the fewest digits are looked at, and
of these the nearest is taken. Every decimal grid is tried from one digit up. On a grid only the two
neighbours of the number can be the nearest one, so the first grid on which a neighbour reads back
decides; both ends of the interval that rounds to the number belong to it exactly if the mantissa
is even.
-/

namespace PostQuery.Number

/-- A positive decimal: `coefficient * 10 ^ exponent`. -/
structure Scientific where
  coefficient : Nat
  exponent : Int
  deriving DecidableEq, Inhabited

namespace Scientific

/-- The place of the point relative to the first digit: `1` for numbers from one to below ten. -/
def point (s : Scientific) : Int := digitCount s.coefficient + s.exponent

/-- The same number with no trailing zero in its coefficient. -/
def strip (s : Scientific) : Scientific :=
  let (c, k) := stripZeros s.coefficient
  ⟨c, s.exponent + k⟩

end Scientific

/-- The least `k` with `num / den < 10 ^ k`, for a positive quotient that is no negative power of
ten. -/
def magnitude (num den : Nat) : Int :=
  if den ≤ num then digitCount (num / den) else 1 - (digitCount (den / num) : Int)

/-- A positive binary number between the two ends of the interval that rounds to it, all three over
one denominator. -/
structure Rounding where
  num : Nat
  low : Nat
  high : Nat
  den : Nat
  /-- The ends belong to the interval. -/
  closed : Bool

namespace Rounding

/-- The interval around `m * 2 ^ q`. Below a power of two the neighbour is only half as far. -/
def ofParts (m : Nat) (q : Int) : Rounding :=
  let unit := Nat.pow 2 q.toNat
  let below := if m = Nat.pow 2 52 ∧ -1074 < q then 1 else 2
  { num := 4 * m * unit
    low := 4 * m * unit - below * unit
    high := 4 * m * unit + 2 * unit
    den := 4 * Nat.pow 2 (-q).toNat
    closed := m % 2 == 0 }

/-- The decimal rounds to the number. -/
def holds (r : Rounding) (s : Scientific) : Bool :=
  let x := s.coefficient * Nat.pow 10 s.exponent.toNat * r.den
  let scale := Nat.pow 10 (-s.exponent).toNat
  if r.closed then r.low * scale ≤ x && x ≤ r.high * scale
  else r.low * scale < x && x < r.high * scale

/-- The neighbour of the number on the grid of step `10 ^ g` that reads back; of two the nearer,
and of two as near the even one. -/
def onGrid? (r : Rounding) (g : Int) : Option Scientific :=
  let num := r.num * Nat.pow 10 (-g).toNat
  let den := r.den * Nat.pow 10 g.toNat
  let c := num / den
  let nearest := roundDiv num den
  let other := if nearest = c then c + 1 else c
  if r.holds ⟨nearest, g⟩ then some ⟨nearest, g⟩
  else if r.holds ⟨other, g⟩ then some ⟨other, g⟩
  else none

/-- The first grid with a hit, of `fuel` grids from that with `n` digits on. -/
def search (r : Rounding) (top : Int) : Nat → Nat → Option Scientific
  | 0, _ => none
  | fuel + 1, n =>
    match r.onGrid? (top - n) with
    | some s => some s
    | none => r.search top fuel (n + 1)

end Rounding

/-- The shortest decimal that rounds to `m * 2 ^ q`, the nearest of those; seventeen digits always
suffice. -/
def shortest (m : Nat) (q : Int) : Scientific :=
  let r := Rounding.ofParts m q
  ((r.search (magnitude r.num r.den) 17 1).getD ⟨0, 0⟩).strip

end PostQuery.Number
