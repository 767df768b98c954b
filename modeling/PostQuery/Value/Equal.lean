import PostQuery.Misuse
import PostQuery.Value.Identical

/-!
# When two values are equal

Numbers of all kinds are equal if they denote the same number, truth values being zero and one.
Bytes are equal whether or not they can change, and so are sets, each item of either of which has to
equal some item of the other. Dictionaries do not look at the order of their entries. A date with a
time equals no date, and a local time none with an offset; times with offsets are equal if they are
the same instant. A member of an enumeration and an object equal themselves alone, and what is not a
number equals nothing. All else is equal part by part.

Parts are compared a little differently from values as wholes: a part equals itself whatever it is.
So a collection with what is not a number in it equals itself, though what is not a number does not.

Comparing a signaling decimal with a number is an error, and so is going around in a value that
holds itself. `eqv` is the comparison of parts where neither can happen, as among keys.
-/

namespace PostQuery.Value

open Number

/-- A number in lowest terms of ten: zero has one form, and no coefficient ends in a zero. -/
inductive Magnitude where
  | finite (negative : Bool) (coefficient : Nat) (exponent : Int)
  | infinite (negative : Bool)
  deriving DecidableEq

namespace Magnitude

/-- The number `± coefficient * 10 ^ exponent` in lowest terms. -/
def ofParts (negative : Bool) (coefficient : Nat) (exponent : Int) : Magnitude :=
  if coefficient = 0 then .finite false 0 0
  else
    let (c, k) := stripZeros coefficient
    .finite negative c (exponent + k)

end Magnitude

/-- The number a value denotes, if it denotes one. A negative power of two is as many powers of
five over the same power of ten. -/
def number? : Value → Option Magnitude
  | .bool b => some (.ofParts false (if b then 1 else 0) 0)
  | .int n => some (.ofParts (n < 0) n.natAbs 0)
  | .float x =>
    match x.view with
    | .nan => none
    | .infinite negative => some (.infinite negative)
    | .finite negative m q =>
      some (.ofParts negative (m * Nat.pow 2 q.toNat * Nat.pow 5 (-q).toNat) (min q 0))
  | .decimal (.finite negative c e) => some (.ofParts negative c e)
  | .decimal (.infinite negative) => some (.infinite negative)
  | _ => none

/-- Two optional numbers are there and the same. -/
def sameNumber : Option Magnitude → Option Magnitude → Bool
  | some a, some b => a = b
  | _, _ => false

/-- The value is a number of some kind, or not a number. -/
def isNumeric : Value → Bool
  | .bool _ | .int _ | .float _ | .decimal _ => true
  | _ => false

/-- The value is a decimal that signals. -/
def isSignaling : Value → Bool
  | .decimal d => d.isSignaling
  | _ => false

/-- Two values that are neither collections nor terms denote the same number. -/
def sameNumeric (v w : Value) : Except Misuse Bool :=
  if v.isNumeric && w.isNumeric && (v.isSignaling || w.isSignaling) then .error .signal
  else .ok (sameNumber v.number? w.number?)

/-- The two are one value found in two places. -/
def isShared : Value → Value → Bool
  | .float x, .float y => x.isMarkedNan && x == y
  | .again i _, .again j _ => i == j
  | _, _ => false

/-- Two dates with times are equal: fields by fields if both are local, as instants if neither
is. -/
def sameMoment (d : Date) (t : Clock) (o : Option Offset) (d' : Date) (t' : Clock)
    (o' : Option Offset) : Bool :=
  match o, o' with
  | none, none => d = d' && t = t'
  | some o, some o' => instant d t o == instant d' t' o'
  | _, _ => false

/-- A list or a dictionary is compared with one that is being compared already. -/
def meetsItself (v w : Value) : Bool :=
  match v, w with
  | .again _ isDict, w | w, .again _ isDict =>
    match w with
    | .list _ => !isDict
    | .dict _ => isDict
    | .again _ isDict' => isDict == isDict'
    | _ => false
  | _, _ => false

/-- The comparison is no error and finds the two equal. -/
def passes : Except Misuse Bool → Bool
  | .ok b => b
  | .error _ => false

/-- Some item passes a test; the first error ends the search. -/
def anyPasses {α : Type} (p : α → Except Misuse Bool) : List α → Except Misuse Bool
  | [] => .ok false
  | x :: xs => do if ← p x then pure true else anyPasses p xs

mutual

/-- The two values are equal. -/
def equal : Value → Value → Except Misuse Bool
  | .null, .null => .ok true
  | .text s, .text t => .ok (s == t)
  | .bytes a, .bytes b | .bytes a, .buffer b | .buffer a, .bytes b | .buffer a, .buffer b =>
    .ok (a == b)
  | .dateTime d t o, .dateTime d' t' o' => .ok (sameMoment d t o d' t' o')
  | .date d, .date d' => .ok (d = d')
  | .time t, .time t' => .ok (t = t')
  | .list xs, .list ys => if xs.length == ys.length then equalAll xs ys else .ok false
  | .tuple xs, .tuple ys => equalAll xs ys
  | .set xs, .set ys | .set xs, .fixedSet ys | .fixedSet xs, .set ys | .fixedSet xs, .fixedSet ys =>
    .ok (xs.length == ys.length && equalWithin xs ys && ys.all (equalSome xs))
  | .dict xs, .dict ys => if xs.length == ys.length then equalEntries xs ys else .ok false
  | .junction a, .junction b => .ok (a = b)
  | .comparison a, .comparison b => .ok (a = b)
  | .mode a, .mode b => .ok (a = b)
  | .context a, .context b => .ok (a = b)
  | .member e n v, .member e' n' v' => .ok (e = e' ∧ n = n' ∧ v = v')
  | .object o, .object o' => .ok (o = o')
  | .literal v, .literal v' => if isShared v v' then .ok true else equal v v'
  | .variable k, .variable k' => if isShared k k' then .ok true else equal k k'
  | .field e n, .field e' n' => do
    if ← (if isShared e e' then .ok true else equal e e') then
      if isShared n n' then pure true else equal n n'
    else pure false
  | .expr k ts b, .expr k' ts' b' => do
    if ← (if isShared k k' then .ok true else equal k k') then
      if ← equalAll ts ts' then pure (b == b') else pure false
    else pure false
  | v, w => if meetsItself v w then .error (.endless true) else sameNumeric v w

/-- Two lists are equal item by item; the first items that differ decide, before the lengths do. -/
def equalAll : List Value → List Value → Except Misuse Bool
  | [], [] => .ok true
  | x :: xs, y :: ys => do
    if ← (if isShared x y then .ok true else equal x y) then equalAll xs ys else pure false
  | _, _ => .ok false

/-- Every item of the first list equals some item of the second. -/
def equalWithin : List Value → List Value → Bool
  | [], _ => true
  | x :: xs, ys =>
    ys.any (fun y => passes (if isShared x y then .ok true else equal x y)) && equalWithin xs ys

/-- Some item of the list equals the value. -/
def equalSome : List Value → Value → Bool
  | [], _ => false
  | x :: xs, y => passes (if isShared x y then .ok true else equal x y) || equalSome xs y

/-- Every entry of the first list equals some entry of the second. -/
def equalEntries : List (Value × Value) → List (Value × Value) → Except Misuse Bool
  | [], _ => .ok true
  | (k, v) :: xs, ys => do
    let sameEntry (e : Value × Value) : Except Misuse Bool := do
      if ← (if isShared k e.1 then .ok true else equal k e.1) then
        if isShared v e.2 then pure true else equal v e.2
      else pure false
    if ← anyPasses sameEntry ys then equalEntries xs ys else pure false

end

/-- Two parts of values are the same part or equal. -/
def same (v w : Value) : Except Misuse Bool := if isShared v w then .ok true else equal v w

/-- Two parts are the same part or equal, and comparing them is no error. -/
def eqv (v w : Value) : Bool :=
  match same v w with
  | .ok b => b
  | .error _ => false

end PostQuery.Value
