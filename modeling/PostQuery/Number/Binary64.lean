import PostQuery.Number.Digits

/-!
# Binary floating point of sixty-four bits

A number is its bit pattern: a sign bit, eleven bits of exponent and fifty-two of fraction. All that
is computed with one goes through `view`, which splits the pattern into what it denotes, and
through `round`, which gives the pattern nearest to a quotient of natural numbers, a tie going to
the even fraction.
-/

namespace PostQuery.Number

/-- A sixty-four bit floating point number, as its bits. -/
structure Binary64 where
  bits : UInt64
  deriving DecidableEq, Inhabited

namespace Binary64

/-- What a bit pattern denotes. -/
inductive View where
  | nan
  | infinite (negative : Bool)
  /-- The number `mantissa * 2 ^ exponent`, with a sign that zero has too. -/
  | finite (negative : Bool) (mantissa : Nat) (exponent : Int)
  deriving DecidableEq

/-- What the bits denote: an exponent field of all ones is an infinity or not a number, one of all
zeros holds the numbers without an implicit leading one. -/
def view (x : Binary64) : View :=
  let n := x.bits.toNat
  let negative := n / Nat.pow 2 63 == 1
  let field : Nat := n / Nat.pow 2 52 % Nat.pow 2 11
  let fraction := n % Nat.pow 2 52
  if field = 2047 then
    if fraction = 0 then .infinite negative else .nan
  else if field = 0 then .finite negative fraction (-1074)
  else .finite negative (Nat.pow 2 52 + fraction) ((field : Int) - 1075)

/-- The number with the given sign whose other sixty-three bits are given. -/
def ofMagnitude (negative : Bool) (magnitude : Nat) : Binary64 :=
  ⟨UInt64.ofNat ((if negative then Nat.pow 2 63 else 0) + magnitude)⟩

/-- The infinity of a sign. -/
def infinity (negative : Bool) : Binary64 := ofMagnitude negative (2047 * Nat.pow 2 52)

/-- The pattern used for what is not a number. -/
def nan : Binary64 := ofMagnitude false (2047 * Nat.pow 2 52 + Nat.pow 2 51)

/-- The number is not one. -/
def isNan (x : Binary64) : Bool := x.view == .nan

/-- What is not a number, with a mark by which copies of one such value are told from others. -/
def markedNan (mark : Nat) : Binary64 :=
  ofMagnitude false (2047 * Nat.pow 2 52 + Nat.pow 2 51 + mark % Nat.pow 2 51)

/-- What is not a number and carries a mark; zero is none. -/
def isMarkedNan (x : Binary64) : Bool := x.isNan && x.bits.toNat % Nat.pow 2 51 != 0

/-- The exponent that gives a quotient at most fifty-three bits of mantissa, no lower than that of
the smallest numbers. -/
def exponentFor (num den : Nat) : Int :=
  let q := max ((num.log2 : Int) - den.log2 - 53) (-1074)
  if num * Nat.pow 2 (-q).toNat / (den * Nat.pow 2 q.toNat) < Nat.pow 2 53 then q else q + 1

/-- The number nearest to `num / den`, a tie to the even mantissa; beyond the largest number it is
an infinity. The mantissa is added to the exponent's place, so that one rounded up to `2 ^ 53`
moves on to the next exponent by itself. -/
def round (negative : Bool) (num den : Nat) : Binary64 :=
  if num = 0 then ofMagnitude negative 0
  else
    let q := exponentFor num den
    let m := roundDiv (num * Nat.pow 2 (-q).toNat) (den * Nat.pow 2 q.toNat)
    let magnitude := (q + 1074).toNat * Nat.pow 2 52 + m
    if 2047 * Nat.pow 2 52 ≤ magnitude then infinity negative else ofMagnitude negative magnitude

/-- The number nearest to `coefficient * 10 ^ exponent`. Exponents that lead outside the range
whatever the digits are cut off first. -/
def ofScientific (negative : Bool) (coefficient : Nat) (exponent : Int) : Binary64 :=
  let size := digitCount coefficient + exponent
  if coefficient = 0 || size < -330 then ofMagnitude negative 0
  else if 310 < size then infinity negative
  else round negative (coefficient * Nat.pow 10 exponent.toNat) (Nat.pow 10 (-exponent).toNat)

/-- An integer's nearest number; no value if that is an infinity. -/
def ofInt? (n : Int) : Option Binary64 :=
  let x := round (n < 0) n.natAbs 1
  match x.view with
  | .finite .. => some x
  | _ => none

/-- The integer toward zero of a finite number. -/
def toInt? (x : Binary64) : Option Int :=
  match x.view with
  | .finite negative m q =>
    let n : Int := m * Nat.pow 2 q.toNat / Nat.pow 2 (-q).toNat
    some (if negative then -n else n)
  | _ => none

/-- The number is neither zero nor minus zero. -/
def nonzero (x : Binary64) : Bool :=
  match x.view with
  | .finite _ m _ => m != 0
  | _ => true

/-- Splits off a leading sign. -/
def takeSign : List Char → Bool × List Char
  | '-' :: cs => (true, cs)
  | '+' :: cs => (false, cs)
  | cs => (false, cs)

/-- The value of an optional exponent, `e` and an integer, at the end of a number. -/
def exponent? : List Char → Option Int
  | [] => some 0
  | c :: cs =>
    if c = 'e' || c = 'E' then
      let (negative, ds) := takeSign cs
      (ofDigits? 10 ds).map fun n => if negative then -(n : Int) else n
    else none

/-- Reads digits with an optional point and an optional exponent as a coefficient and a power of
ten. -/
def scientific? (cs : List Char) : Option (Nat × Int) := do
  let whole := cs.takeWhile isDigit
  let rest := cs.dropWhile isDigit
  let (places, rest) := match rest with
    | '.' :: r => (r.takeWhile isDigit, r.dropWhile isDigit)
    | r => ([], r)
  let coefficient ← ofDigits? 10 (whole ++ places)
  let exponent ← exponent? rest
  pure (coefficient, exponent - places.length)

/-- Reads a signed decimal text, or a word in lower case for an infinity or no number. -/
def ofText? (s : String) : Option Binary64 :=
  let (negative, cs) := takeSign s.toList
  let word := String.ofList cs
  if word == "inf" || word == "infinity" then some (infinity negative)
  else if word == "nan" then some nan
  else (scientific? cs).map fun (c, e) => ofScientific negative c e

/-- The sum of two numbers, rounded once. -/
def add (x y : Binary64) : Binary64 :=
  match x.view, y.view with
  | .finite n m q, .finite n' m' q' =>
    let e := min q q'
    let a : Int := m * Nat.pow 2 (q - e).toNat
    let b : Int := m' * Nat.pow 2 (q' - e).toNat
    let s := (if n then -a else a) + (if n' then -b else b)
    round (s < 0 || (s == 0 && n && n')) (s.natAbs * Nat.pow 2 e.toNat) (Nat.pow 2 (-e).toNat)
  | .infinite n, .infinite n' => if n = n' then x else nan
  | .nan, _ | _, .nan => nan
  | .infinite _, _ => x
  | _, .infinite _ => y

/-- The product of a number and a natural number, rounded once; the factor is taken as exact. -/
def scale (x : Binary64) (k : Nat) : Binary64 :=
  match x.view with
  | .finite n m q => round n (m * k * Nat.pow 2 q.toNat) (Nat.pow 2 (-q).toNat)
  | .infinite n => if k = 0 then nan else infinity n
  | .nan => nan

/-- The number with the other sign. -/
def neg (x : Binary64) : Binary64 := ⟨x.bits ^^^ 0x8000000000000000⟩

end Binary64

end PostQuery.Number
