import PostQuery.Template.Fault

/-!
# Arguments in a template

What a conversion makes of an argument: a text or bytes, cut to the precision, or a number with its
sign, the mark of its base and its digits, put into its width.

Integers are exact. Floating point numbers are rounded from their exact value, a tie to the even
digit.
-/

namespace PostQuery

namespace Template

open Number

/-- What stands between the percent sign and the conversion. -/
structure Layout where
  left : Bool := false
  plus : Bool := false
  blank : Bool := false
  alternate : Bool := false
  zero : Bool := false
  width : Nat := 0
  precision : Option Nat := none

/-- Blanks. -/
def blanks (n : Nat) : List Char := List.replicate n ' '

/-- Characters in their width, cut to the precision. -/
def field (l : Layout) (cs : List Char) : List Char :=
  let cs := match l.precision with
    | some n => cs.take n
    | none => cs
  let pad := blanks (l.width - cs.length)
  if l.left then cs ++ pad else pad ++ cs

/-- A text in its width, cut to the precision. -/
def textField (l : Layout) (s : String) : List Char := field l s.toList

/-- A number in its width: sign, mark of the base, digits. Zeros that fill it up stand behind the
mark, blanks in front of the sign. -/
def numberField (l : Layout) (negative : Bool) (mark body : List Char) : List Char :=
  let sign := if negative then ['-'] else if l.plus then ['+'] else if l.blank then [' '] else []
  let pad := l.width - (sign.length + mark.length + body.length)
  if l.left then sign ++ mark ++ body ++ blanks pad
  else if l.zero then sign ++ mark ++ zeros pad ++ body
  else blanks pad ++ sign ++ mark ++ body

/-- The most digits an integer's text may have. -/
def digitBound : Nat := 4300

/-- The integer that a conversion takes from an argument. The decimal conversions cut off the
places of other numbers; those of the other bases take integers only. -/
def integerOf (c : Char) (v : Value) : Except Fault Int :=
  match v with
  | .int n => .ok n
  | .bool b => .ok (if b then 1 else 0)
  | v =>
    if c = 'o' || c = 'x' || c = 'X' then .error (.notInteger c v)
    else match v with
      | .float x =>
        match x.toInt?, x.view with
        | some n, _ => .ok n
        | none, .nan => .error (.noInteger true "float NaN")
        | none, _ => .error (.noInteger false "float infinity")
      | .decimal d =>
        match d with
        | .finite _ coefficient exponent =>
          if coefficient ≠ 0 && (digitBound : Int) < Decimal.wholeDigits coefficient exponent then
            .error .tooManyDigits
          else .ok (d.toInt?.getD 0)
        | .infinite _ => .error (.noInteger false "Infinity")
        | .nan .. => .error (.noInteger true "NaN")
      | v => .error (.notNumber c v)

/-- An integer in the base of its conversion, with at least as many digits as the precision says. -/
def integerField (l : Layout) (c : Char) (n : Int) : List Char :=
  let base := if c = 'o' then 8 else if c = 'x' || c = 'X' then 16 else 10
  let ds := Nat.toDigits base n.natAbs
  let ds := zeros (l.precision.getD 0 - ds.length) ++ ds
  let ds := if c = 'X' then ds.map Char.toUpper else ds
  let mark := if l.alternate && base != 10 then ['0', c] else []
  numberField l (n < 0) mark ds

/-- The floating point number that a conversion takes from an argument. -/
def realOf (script : Script) (v : Value) : Except Fault Binary64 :=
  let orElse (fault : Fault) (found : Option Binary64) : Except Fault Binary64 :=
    match found, script with
    | some x, _ => .ok x
    | none, .characters => .error fault
    | none, .octets => .error (.notReal script v)
  match v with
  | .float x => .ok x
  | .int n => orElse .tooLargeForFloat (Binary64.ofInt? n)
  | .bool b => orElse .tooLargeForFloat (Binary64.ofInt? (if b then 1 else 0))
  | .decimal d => orElse .signaling d.toBinary64?
  | v => .error (.notReal script v)

/-- A floating point number in the notation of its conversion; six places unless the precision
says otherwise. -/
def realField (l : Layout) (c : Char) (x : Binary64) : List Char :=
  let places := l.precision.getD 6
  let shout (cs : List Char) : List Char := if c.isUpper then cs.map Char.toUpper else cs
  match x.view with
  | .nan => numberField l false [] (shout ['n', 'a', 'n'])
  | .infinite negative => numberField l negative [] (shout ['i', 'n', 'f'])
  | .finite negative m q =>
    let num := m * Nat.pow 2 q.toNat
    let den := Nat.pow 2 (-q).toNat
    let letter := if c.isUpper then 'E' else 'e'
    let body :=
      if c = 'f' || c = 'F' then fixedLayout l.alternate places num den
      else if c = 'e' || c = 'E' then exponentLayout l.alternate letter places num den
      else generalLayout l.alternate letter places num den
    numberField l negative [] body

/-- The character that a conversion takes from an argument: a text or bytes of one, or its
number. -/
def charOf (script : Script) (v : Value) : Except Fault Char :=
  let ofNumber (n : Int) : Except Fault Char :=
    let last : Int := match script with
      | .characters => 0x10FFFF
      | .octets => 0xFF
    if n < 0 || last < n then .error (.charRange script) else .ok (Char.ofNat n.toNat)
  match v, script with
  | .text s, .characters =>
    match s.toList with
    | [c] => .ok c
    | _ => .error (.notChar script)
  | .bytes [o], .octets | .buffer [o], .octets => .ok (Text.charOfByte o)
  | .int n, _ => ofNumber n
  | .bool b, _ => ofNumber (if b then 1 else 0)
  | _, _ => .error (.notChar script)

/-- The bytes that a conversion takes from an argument. -/
def bytesOf (v : Value) : Except Fault (List Char) :=
  match v with
  | .bytes octets | .buffer octets => .ok (octets.map Text.charOfByte)
  | v => .error (.notBytes v)

/-- An argument in a form that both sorts of template have. -/
def convertNumber (script : Script) (l : Layout) (c : Char) (index : Nat) (v : Value) :
    Except Fault (List Char) :=
  match c with
  | 'd' | 'i' | 'u' | 'o' | 'x' | 'X' => (integerOf c v).map (integerField l c)
  | 'e' | 'E' | 'f' | 'F' | 'g' | 'G' => (realOf script v).map (realField l c)
  | 'c' => (charOf script v).map fun ch => field { l with precision := none } [ch]
  | _ => .error (.unsupported script c index)

/-- An argument in the form of a conversion, which stands at the given place. -/
def convert (script : Script) (l : Layout) (c : Char) (index : Nat) (v : Value) :
    Except Fault (List Char) :=
  match script with
  | .characters =>
    match c with
    | 's' => .ok (textField l v.display)
    | 'r' => .ok (textField l v.inspect)
    | 'a' => .ok (textField l (Text.escapeWide v.inspect))
    | c => convertNumber script l c index v
  | .octets =>
    match c with
    | 's' | 'b' => (bytesOf v).map (field l)
    | 'r' | 'a' => .ok (textField l (Text.escapeWide v.inspect))
    | 'i' => convertNumber script l 'd' index v
    | c => convertNumber script l c index v

end Template

end PostQuery
