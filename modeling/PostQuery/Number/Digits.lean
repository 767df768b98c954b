/-!
# Decimal digits of natural numbers

How many digits a number has, its digits as characters, the number that digits denote, and division
rounded to the nearest integer with ties to the even one.
-/

namespace PostQuery.Number

/-- The decimal digits of a number, the most significant first; zero has one. -/
def digits (n : Nat) : List Char := Nat.toDigits 10 n

/-- How many decimal digits a number has. -/
def digitCount (n : Nat) : Nat := (digits n).length

/-- The value of one decimal or hexadecimal digit. -/
def digitValue? (c : Char) : Option Nat :=
  if '0' ≤ c && c ≤ '9' then some (c.toNat - '0'.toNat)
  else if 'a' ≤ c && c ≤ 'f' then some (c.toNat - 'a'.toNat + 10)
  else if 'A' ≤ c && c ≤ 'F' then some (c.toNat - 'A'.toNat + 10)
  else none

/-- The character is a decimal digit of the seven-bit range. -/
def isDigit (c : Char) : Bool := '0' ≤ c && c ≤ '9'

/-- The number that a nonempty run of digits denotes in a base; no value for anything else. -/
def ofDigits? (base : Nat) (cs : List Char) : Option Nat :=
  if cs.isEmpty then none
  else cs.foldl (fun acc c =>
    match acc, digitValue? c with
    | some n, some d => if d < base then some (n * base + d) else none
    | _, _ => none) (some 0)

/-- The quotient rounded to the nearest integer, a tie to the even one. -/
def roundDiv (num den : Nat) : Nat :=
  let q := num / den
  let r := num % den
  if 2 * r < den then q else if den < 2 * r then q + 1 else q + q % 2

/-- The number without its trailing zeros and how many were removed, looking at no more than
`fuel` of them. -/
def dropZeros : Nat → Nat → Nat × Nat
  | 0, n => (n, 0)
  | fuel + 1, n =>
    if n % 10 = 0 then
      let (m, k) := dropZeros fuel (n / 10)
      (m, k + 1)
    else (n, 0)

/-- The number without its trailing zeros and how many there were; zero has none. -/
def stripZeros (n : Nat) : Nat × Nat :=
  if n = 0 then (0, 0) else dropZeros (digitCount n) n

/-- An integer's decimal text. -/
def intText (n : Int) : String := String.ofList <|
  match n with
  | .ofNat m => digits m
  | .negSucc m => '-' :: digits (m + 1)

end PostQuery.Number
