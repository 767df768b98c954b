import PostQuery.Number.Binary64

/-!
# Decimal numbers

A decimal keeps the digits it was written with: `2.50` and `2.5` are equal in value and differ in
text. Its text is positional as long as the exponent is not positive and no more than five zeros
follow the point before the first digit, and scientific otherwise.
-/

namespace PostQuery.Number

/-- A decimal number with its exponent, or one of the special values. -/
inductive Decimal where
  | finite (negative : Bool) (coefficient : Nat) (exponent : Int)
  | infinite (negative : Bool)
  /-- Not a number; the digits tell such values apart, none if the number is zero. -/
  | nan (negative signaling : Bool) (payload : Nat)
  deriving DecidableEq, Inhabited

namespace Decimal

/-- The text of a decimal number. -/
def text : Decimal → String
  | .infinite negative => (if negative then "-" else "") ++ "Infinity"
  | .nan negative signaling payload =>
    (if negative then "-" else "") ++ (if signaling then "sNaN" else "NaN")
      ++ (if payload = 0 then "" else String.ofList (digits payload))
  | .finite negative coefficient exponent =>
    let ds := digits coefficient
    let point := exponent + ds.length
    let inPlace := exponent ≤ 0 && -6 < point
    let shown := if inPlace then point else 1
    let body :=
      if shown ≤ 0 then '0' :: '.' :: (List.replicate (-shown).toNat '0' ++ ds)
      else if ds.length ≤ shown.toNat then ds ++ List.replicate (shown.toNat - ds.length) '0'
      else ds.take shown.toNat ++ '.' :: ds.drop shown.toNat
    let tail :=
      if inPlace || point = 1 then []
      else
        let e := point - 1
        'E' :: (if e < 0 then '-' else '+') :: digits e.natAbs
    String.ofList ((if negative then ['-'] else []) ++ body ++ tail)

/-- Reads the text of a decimal number. -/
def ofText? (s : String) : Option Decimal :=
  let (negative, cs) := Binary64.takeSign s.toList
  let lowered := cs.map Char.toLower
  if lowered = "infinity".toList || lowered = "inf".toList then some (.infinite negative)
  else if lowered = "nan".toList then some (.nan negative false 0)
  else if lowered = "snan".toList then some (.nan negative true 0)
  else if lowered.take 3 = "nan".toList then
    (ofDigits? 10 (cs.drop 3)).map fun n => .nan negative false n
  else if lowered.take 4 = "snan".toList then
    (ofDigits? 10 (cs.drop 4)).map fun n => .nan negative true n
  else (Binary64.scientific? cs).map fun (c, e) => .finite negative c e

/-- The number is neither zero nor minus zero. -/
def nonzero : Decimal → Bool
  | .finite _ c _ => c != 0
  | _ => true

/-- Comparing the value with a number is an error. -/
def isSignaling : Decimal → Bool
  | .nan _ signaling _ => signaling
  | _ => false

/-- The value is no number. -/
def isNan : Decimal → Bool
  | .nan .. => true
  | _ => false

/-- How many digits stand before the point, negative for zeros behind it. -/
def wholeDigits (coefficient : Nat) (exponent : Int) : Int := digitCount coefficient + exponent

/-- The integer toward zero of a finite number. Powers of ten are formed only where the digits
reach beyond the point. -/
def toInt? : Decimal → Option Int
  | .finite negative c e =>
    let n : Int :=
      if c = 0 || wholeDigits c e ≤ 0 then 0 else c * Nat.pow 10 e.toNat / Nat.pow 10 (-e).toNat
    some (if negative then -n else n)
  | _ => none

/-- The nearest binary number; no value for a signaling one. -/
def toBinary64? : Decimal → Option Binary64
  | .finite negative c e => some (Binary64.ofScientific negative c e)
  | .infinite negative => some (Binary64.infinity negative)
  | .nan _ signaling _ => if signaling then none else some Binary64.nan

end Decimal

end PostQuery.Number
