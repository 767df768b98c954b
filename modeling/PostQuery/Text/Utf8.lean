import PostQuery.Number.Digits
import PostQuery.Text.Quoted

/-!
# UTF-8

A text is read from its octets, and the first octet that rules it out ends the reading. What is
reported is the sequence up to that octet. A sequence that is cut off by the end of the octets is
reported by itself, as if it stood at the beginning.
-/

namespace PostQuery.Text.Utf8

/-- Why octets are no text. -/
inductive Fault where
  | start (octet : UInt8) (place : Nat)
  /-- The octets from one place on begin a sequence that does not go on as it must. -/
  | continuation (octets : List UInt8) (place : Nat)
  | truncated (octets : List UInt8)

namespace Fault

/-- The octets at fault and where they stand. -/
def located (octets : List UInt8) (place : Nat) : String :=
  match octets with
  | [b] =>
    "byte 0x" ++ String.ofList (hexDigits 2 b.toNat) ++ " in position " ++ Number.intText place
  | bs =>
    "bytes in position " ++ Number.intText place ++ "-"
      ++ Number.intText (place + bs.length - 1 : Nat)

/-- What is reported. -/
def message (f : Fault) : String :=
  let (found, why) := match f with
    | .start b place => (located [b] place, "invalid start byte")
    | .continuation bs place => (located bs place, "invalid continuation byte")
    | .truncated bs => (located bs 0, "unexpected end of data")
  "'utf-8' codec can't decode " ++ found ++ ": " ++ why

end Fault

/-- The octet can continue a sequence. -/
def isTail (b : UInt8) : Bool := 0x80 ≤ b && b ≤ 0xBF

/-- The second octet can follow the first one: overlong forms, surrogates and what lies beyond the
last code point are ruled out here. -/
def canFollow (first second : UInt8) : Bool :=
  if first = 0xE0 then 0xA0 ≤ second && second ≤ 0xBF
  else if first = 0xED then 0x80 ≤ second && second ≤ 0x9F
  else if first = 0xF0 then 0x90 ≤ second && second ≤ 0xBF
  else if first = 0xF4 then 0x80 ≤ second && second ≤ 0x8F
  else isTail second

/-- The six bits of an octet that continues a sequence. -/
def bits (b : UInt8) : Nat := b.toNat % 64

/-- The characters of octets, the first of which stands at the given place. -/
def decodeFrom (place : Nat) : List UInt8 → Except Fault (List Char)
  | [] => .ok []
  | a :: rest =>
    if a < 0x80 then (decodeFrom (place + 1) rest).map (Char.ofNat a.toNat :: ·)
    else if a < 0xC2 || 0xF4 < a then .error (.start a place)
    else match rest with
      | [] => .error (.truncated [a])
      | b :: rest =>
        if !canFollow a b then .error (.continuation [a] place)
        else if a < 0xE0 then
          (decodeFrom (place + 2) rest).map (Char.ofNat (a.toNat % 32 * 64 + bits b) :: ·)
        else match rest with
          | [] => .error (.truncated [a, b])
          | c :: rest =>
            if !isTail c then .error (.continuation [a, b] place)
            else if a < 0xF0 then
              (decodeFrom (place + 3) rest).map
                (Char.ofNat ((a.toNat % 16 * 64 + bits b) * 64 + bits c) :: ·)
            else match rest with
              | [] => .error (.truncated [a, b, c])
              | d :: rest =>
                if !isTail d then .error (.continuation [a, b, c] place)
                else
                  (decodeFrom (place + 4) rest).map
                    (Char.ofNat (((a.toNat % 8 * 64 + bits b) * 64 + bits c) * 64 + bits d) :: ·)

/-- The characters of octets. -/
def decode (octets : List UInt8) : Except Fault (List Char) := decodeFrom 0 octets

end PostQuery.Text.Utf8
