import PostQuery.Number.Shortest

/-!
# Layouts of decimal numbers

A positive number is laid out either with its point in place or with one digit before the point and
a power of ten behind. `floatText` is the layout for a number that stands by itself: the shortest
digits that read back, in place from 0.0001 up to sixteen digits before the point, with at least
one digit on either side of it. The other layouts round the exact number to a given count of
places or digits.
-/

namespace PostQuery.Number

/-- Zeros. -/
def zeros (n : Nat) : List Char := List.replicate n '0'

/-- The exponent part: a letter, a sign and at least two digits. -/
def exponentText (letter : Char) (e : Int) : List Char :=
  let ds := digits e.natAbs
  letter :: (if e < 0 then '-' else '+') :: (zeros (2 - ds.length) ++ ds)

/-- Digits with the point after the first `point` of them, filled with zeros on either side. -/
def placed (ds : List Char) (point : Int) : List Char × List Char :=
  if point ≤ 0 then (['0'], zeros (-point).toNat ++ ds)
  else
    let n := point.toNat
    (ds.take n ++ zeros (n - ds.length), ds.drop n)

/-- Whole part and places with a point between, which is left out before no places unless it is
asked for. -/
def joinPoint (keep : Bool) (parts : List Char × List Char) : List Char :=
  if parts.2.isEmpty && !keep then parts.1 else parts.1 ++ '.' :: parts.2

/-- The layout of a number that stands by itself, without its sign. -/
def plainLayout (s : Scientific) : List Char :=
  let ds := digits s.coefficient
  if -4 < s.point && s.point ≤ 16 then
    let (whole, places) := placed ds s.point
    whole ++ '.' :: (if places.isEmpty then ['0'] else places)
  else joinPoint false (ds.take 1, ds.drop 1) ++ exponentText 'e' (s.point - 1)

/-- The sign in front of a number. -/
def signed (negative : Bool) (cs : List Char) : List Char :=
  if negative then '-' :: cs else cs

/-- The text of a floating point number: the shortest one that reads back. -/
def floatText (x : Binary64) : String := String.ofList <|
  match x.view with
  | .nan => ['n', 'a', 'n']
  | .infinite negative => signed negative ['i', 'n', 'f']
  | .finite negative m q =>
    signed negative (if m = 0 then ['0', '.', '0'] else plainLayout (shortest m q))

/-- A quotient rounded to `places` digits behind the point. -/
def fixedLayout (keep : Bool) (places num den : Nat) : List Char :=
  let ds := digits (roundDiv (num * Nat.pow 10 places) den)
  let ds := zeros (places + 1 - ds.length) ++ ds
  joinPoint keep (ds.take (ds.length - places), ds.drop (ds.length - places))

/-- A quotient rounded to `count` significant digits: the digits and the place of the point. Zero
has its point after the first digit. -/
def significant (count num den : Nat) : List Char × Int :=
  if num = 0 then (zeros count, 1)
  else
    let k := magnitude num den
    let g := k - count
    let c := roundDiv (num * Nat.pow 10 (-g).toNat) (den * Nat.pow 10 g.toNat)
    if digitCount c > count then (digits (c / 10), k + 1) else (digits c, k)

/-- A quotient with one digit before the point, `places` behind and a power of ten. -/
def exponentLayout (keep : Bool) (letter : Char) (places num den : Nat) : List Char :=
  let (ds, point) := significant (places + 1) num den
  joinPoint keep (ds.take 1, ds.drop 1) ++ exponentText letter (point - 1)

/-- Digits without the zeros they end in. -/
def trimZeros (ds : List Char) : List Char := (ds.reverse.dropWhile (· == '0')).reverse

/-- A quotient rounded to `count` significant digits, in place for exponents from minus four up to
`count`; trailing zeros stand only if the point is kept. -/
def generalLayout (keep : Bool) (letter : Char) (count num den : Nat) : List Char :=
  let count := max count 1
  let (ds, point) := significant count num den
  let shown := if keep then ds else
    match trimZeros ds with
    | [] => ['0']
    | r => r
  if -4 < point && point ≤ count then joinPoint keep (placed shown point)
  else joinPoint keep (shown.take 1, shown.drop 1) ++ exponentText letter (point - 1)

end PostQuery.Number
