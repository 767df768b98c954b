import PostQuery.Value.Equal

/-!
# The order of a set

A set gives its items by the slots they lie in, and not as they were put in. An item's slot is the
remainder of its hash by the number of slots; where that is taken the next nine are tried, and then
slots scattered by the higher bits. A set of which three fifths are filled grows to four times its
size.

Numbers hash to their residue modulo `2 ^ 61 - 1`, so that equal numbers of different kinds meet,
and sequences and fixed sets to a mixture of the hashes of their items. Other values, texts among
them, hash to nothing that can be known beforehand; a set with one of those gives its items as they
were put in.
-/

namespace PostQuery.Value

open Number

namespace Slots

/-- The modulus of the hashes of numbers. -/
def modulus : Nat := Nat.pow 2 61 - 1

/-- A power modulo the modulus, by repeated squaring. -/
def powerOf (base : Nat) : Nat → Nat
  | 0 => 1
  | n + 1 =>
    let half := powerOf base ((n + 1) / 2)
    let square := half * half % modulus
    if n % 2 = 0 then square * base % modulus else square
termination_by exponent => exponent
decreasing_by omega

/-- An integer as a hash, which is a word with a sign; minus one is kept for errors. -/
def word (n : Int) : UInt64 :=
  let n := if n = -1 then -2 else n
  UInt64.ofNat (n % Nat.pow 2 64).toNat

/-- The hash of a number in lowest terms. A power of ten below one is a power of the inverse, and
powers repeat with the modulus less one. -/
def ofNumber : Magnitude → UInt64
  | .infinite negative => word (if negative then -314159 else 314159)
  | .finite negative c e =>
    let exponent := (e % (modulus - 1 : Nat)).toNat
    let r : Int := c % modulus * powerOf 10 exponent % modulus
    word (if negative then -r else r)

/-- The bits of a word turned left. -/
def turned (x : UInt64) (by_ : UInt64) : UInt64 := x <<< by_ ||| x >>> (64 - by_)

/-- The hash of a sequence from those of its items. -/
def ofSequence (hashes : List UInt64) : UInt64 :=
  let start : UInt64 := 2870177450012600261
  let mixed : UInt64 := hashes.foldl (fun acc h =>
    turned (acc + h * 14029467366897019727) 31 * 11400714785074694791) start
  let mixed : UInt64 := mixed + (UInt64.ofNat hashes.length ^^^ start ^^^ 3527539)
  if mixed = 0 - 1 then 1546275796 else mixed

/-- The hash of a fixed set from those of its items, whatever their order. -/
def ofFixedSet (hashes : List UInt64) : UInt64 :=
  let spread (h : UInt64) : UInt64 := (h ^^^ 89869747 ^^^ h <<< (16 : UInt64)) * 3644798167
  let mixed : UInt64 := hashes.foldl (fun acc h => acc ^^^ spread h) 0
  let mixed : UInt64 := mixed ^^^ ((UInt64.ofNat hashes.length + 1) * 1927868237)
  let mixed : UInt64 := mixed ^^^ ((mixed >>> 11) ^^^ (mixed >>> 25))
  let mixed := mixed * 69069 + 907133923
  if mixed = 0 - 1 then 590923713 else mixed

/-- The hash of a moment: that of its days, seconds and microseconds. -/
def ofMoment (d : Date) (t : Clock) (o : Offset) : UInt64 :=
  match instant d t o with
  | [minutes, second, microsecond] =>
    let days := minutes.fdiv (24 * 60)
    let seconds := minutes.fmod (24 * 60) * 60 + second
    ofSequence [word days, word seconds, word microsecond]
  | _ => 0

mutual

/-- The hash of a value, where it is known beforehand. -/
def hash? : Value → Option UInt64
  | .dateTime d t (some o) => some (ofMoment d t o)
  | .tuple items => (hashes? items).map ofSequence
  | .fixedSet items => (hashes? items).map ofFixedSet
  | .literal v => (hash? v).map fun h => ofSequence [h]
  | .variable k => (hash? k).map fun h => ofSequence [h]
  | .field e n =>
    match hash? e, hash? n with
    | some h, some h' => some (ofSequence [h, h'])
    | _, _ => none
  | .expr k ts negated =>
    match hash? k, hashes? ts with
    | some h, some hs =>
      some (ofSequence [h, ofSequence hs, word (if negated then 1 else 0)])
    | _, _ => none
  | v => v.number?.map ofNumber

/-- The hashes of all values of a list, where they are known. -/
def hashes? : List Value → Option (List UInt64)
  | [] => some []
  | v :: vs =>
    match hash? v, hashes? vs with
    | some h, some hs => some (h :: hs)
    | _, _ => none

end

/-- The slots of a set. -/
abbrev Table := Array (Option (UInt64 × Value))

/-- A table of empty slots. -/
def empty (size : Nat) : Table := Array.replicate size none

/-- How many slots in a row are tried after the first. -/
def inRow : Nat := 9

/-- The first free slot of some in a row. -/
def freeInRow? (t : Table) (first count : Nat) : Option Nat :=
  ((List.range count).map (first + ·)).find? fun i => (t.getD i none).isNone

/-- The first free slot for a hash, looked for from a slot on with what is left of the higher bits.
The number bounds the rows that are tried. -/
def freeSlot? (t : Table) : Nat → Nat → Nat → Option Nat
  | 0, _, _ => none
  | fuel + 1, slot, higher =>
    let count := if slot + inRow < t.size then inRow + 1 else 1
    match freeInRow? t slot count with
    | some i => some i
    | none =>
      let higher := higher / Nat.pow 2 5
      freeSlot? t fuel ((slot * 5 + 1 + higher) % t.size) higher

/-- A table with an item put into its slot. -/
def put (t : Table) (item : UInt64 × Value) : Table :=
  match freeSlot? t (t.size + 64) (item.1.toNat % t.size) item.1.toNat with
  | some i => t.setIfInBounds i (some item)
  | none => t

/-- The items of a table, slot by slot. -/
def contents (t : Table) : List (UInt64 × Value) := t.toList.filterMap id

/-- A size that is more than asked for: eight, or eight doubled often enough. The number bounds the
doublings. -/
def sizeAbove (least : Nat) : Nat → Nat → Nat
  | 0, size => size
  | fuel + 1, size => if size ≤ least then sizeAbove least fuel (2 * size) else size

/-- A table with more slots than asked for and the same items. -/
def resized (t : Table) (least : Nat) : Table :=
  (contents t).foldl put (empty (sizeAbove least 64 8))

/-- A table is filled so far that it has to grow. -/
def isCrowded (size used : Nat) : Bool := 3 * (size - 1) ≤ used * 5

/-- A table with an item added to so many others, grown if need be. -/
def added (t : Table) (used : Nat) (item : UInt64 × Value) : Table :=
  let t := put t item
  if isCrowded t.size (used + 1) then
    resized t (if 50000 < used + 1 then 2 * (used + 1) else 4 * (used + 1))
  else t

/-- A table with items added one by one. -/
def filled (t : Table) (vs : List (UInt64 × Value)) : Table :=
  (vs.foldl (fun (acc : Table × Nat) v => (added acc.1 acc.2 v, acc.2 + 1)) (t, 0)).1

end Slots

open Slots in
/-- Distinct values in the order in which a set gives them that was made from the keys of a
dictionary with `count` entries. -/
def inSlots (count : Nat) (vs : List Value) : List Value :=
  match hashes? vs with
  | none => vs
  | some hs =>
    let start := if isCrowded 8 count then empty (sizeAbove (2 * count) 64 8) else empty 8
    (contents (filled start (hs.zip vs))).map Prod.snd

open Slots in
/-- Distinct values in the order in which a set gives them that they were added to one by one. -/
def inSlotsOneByOne (vs : List Value) : List Value :=
  match hashes? vs with
  | none => vs
  | some hs => (contents (filled (empty 8) (hs.zip vs))).map Prod.snd

end PostQuery.Value
