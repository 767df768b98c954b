import PostQuery.Text.Blank
import PostQuery.Text.Lower
import PostQuery.Text.Quoted
import PostQuery.Value.Basic
import PostQuery.Yaml.Token

/-!
# Scalars of a YAML document

A plain scalar without a tag means what it looks like: nothing, a truth value, an integer, a number
with a point, a date, a merge key, or else a text. A line feed at its end does not change what it
looks like. Integers may be binary, octal, hexadecimal or in base sixty with colons, and underscores
inside numbers are ignored.
-/

namespace PostQuery.Yaml

open Number

/-- What a node is, by its tag. -/
inductive Kind where
  | null
  | boolean
  | integer
  | float
  | timestamp
  | text
  | binary
  | merge
  | default
  | sequence
  | mapping
  | set
  | orderedMapping
  | pairs
  | unknown
  deriving DecidableEq, Inhabited

namespace Kind

/-- What the tags of the language begin with. -/
def leading : String := "tag:yaml.org,2002:"

/-- The kinds by the rest of their tag. -/
def named : List (String × Kind) :=
  [("null", .null), ("bool", .boolean), ("int", .integer), ("float", .float),
   ("timestamp", .timestamp), ("str", .text), ("binary", .binary), ("merge", .merge),
   ("value", .default), ("seq", .sequence), ("map", .mapping), ("set", .set),
   ("omap", .orderedMapping), ("pairs", .pairs)]

/-- The kind that a tag names. -/
def ofTag (tag : String) : Kind :=
  match named.find? fun e => leading ++ e.1 == tag with
  | some e => e.2
  | none => .unknown

end Kind

/-! ## What a plain scalar looks like -/

/-- A sign is optional in front. -/
def unsigned (cs : List Char) : List Char := (Binary64.takeSign cs).2

/-- There are characters, and all of them are in the class. -/
def allOf (p : Char → Bool) (cs : List Char) : Bool := !cs.isEmpty && cs.all p

/-- A decimal digit or an underscore. -/
def isDigitOrLow (c : Char) : Bool := isDigit c || c == '_'

/-- A decimal digit, then digits and underscores. -/
def isGrouped : List Char → Bool
  | c :: cs => isDigit c && cs.all isDigitOrLow
  | [] => false

/-- The parts of a text between the places where a character stands. -/
def splitAt (sep : Char) : List Char → List (List Char)
  | [] => [[]]
  | c :: cs =>
    match splitAt sep cs with
    | part :: parts => if c = sep then [] :: part :: parts else (c :: part) :: parts
    | [] => [[c]]

/-- One or two digits below sixty. -/
def isSixtieth : List Char → Bool
  | [c] => isDigit c
  | [c, d] => '0' ≤ c && c ≤ '5' && isDigit d
  | _ => false

/-- A number in base sixty: digits, then at least one colon with a part below sixty. -/
def isSexagesimal (cs : List Char) : Bool :=
  match splitAt ':' cs with
  | first :: part :: parts => isGrouped first && (part :: parts).all isSixtieth
  | _ => false

/-- The text looks like an integer. -/
def looksInteger (cs : List Char) : Bool :=
  match unsigned cs with
  | '0' :: 'b' :: ds => allOf (oneOf "01_") ds
  | '0' :: 'x' :: ds => allOf (fun c => (digitValue? c).isSome || c == '_') ds
  | ['0'] => true
  | '0' :: ds => ds.all (oneOf "01234567_")
  | ds => (isGrouped ds || isSexagesimal ds)

/-- An exponent with a sign, or nothing. -/
def isSignedExponent : List Char → Bool
  | [] => true
  | c :: sign :: ds => (c == 'e' || c == 'E') && (sign == '-' || sign == '+') && allOf isDigit ds
  | _ => false

/-- The text looks like a number with a point. -/
def looksFloat (cs : List Char) : Bool :=
  let ds := unsigned cs
  let whole := ds.takeWhile (· != '.')
  match ds.dropWhile (· != '.') with
  | _ :: places =>
    let tail := places.dropWhile isDigitOrLow
    if whole.isEmpty then
      oneWord ["inf", "Inf", "INF"] places
        || (ds == cs && (oneWord ["nan", "NaN", "NAN"] places
          || ((places.head?.map isDigit).getD false && isSignedExponent tail)))
    else (isGrouped whole && isSignedExponent tail) || (isSexagesimal whole && tail.isEmpty)
  | [] => false
where
  /-- The characters spell one of the words. -/
  oneWord (words : List String) (cs : List Char) : Bool := words.contains (String.ofList cs)

/-- The fields of a time of day and its offset from universal time, if it has one. -/
structure StampTime where
  hour : Nat
  minute : Nat
  second : Nat
  microsecond : Nat
  offset : Option Offset

/-- The fields of a date and, if it has one, its time. -/
structure Stamp where
  year : Nat
  month : Nat
  day : Nat
  time : Option StampTime

/-- Reads between `least` and `most` digits, as many as there are. -/
def digitsBetween? (least most : Nat) (cs : List Char) : Option (Nat × List Char) :=
  let ds := (cs.takeWhile isDigit).take most
  if ds.length < least then none else (ofDigits? 10 ds).map fun n => (n, cs.drop ds.length)

/-- Reads a character. -/
def expect? (c : Char) : List Char → Option (List Char)
  | d :: cs => if c = d then some cs else none
  | [] => none

/-- The offset of a time from universal time, which may be missing, at the end of a stamp. -/
def offset? (cs : List Char) : Option (Option Offset) :=
  match cs with
  | [] => some none
  | ['Z'] => some (some 0)
  | sign :: rest =>
    if sign == '+' || sign == '-' then
      let minutes? : Option Nat :=
        match digitsBetween? 1 2 rest with
        | some (hours, []) => some (hours * 60)
        | some (hours, ':' :: rest) =>
          match digitsBetween? 2 2 rest with
          | some (minutes, []) => some (hours * 60 + minutes)
          | _ => none
        | _ => none
      minutes?.map fun n => some (if sign == '-' then -(n : Int) else n)
    else none

/-- Six digits of a fraction of a second. -/
def microseconds (ds : List Char) : Nat :=
  let ds := ds.take 6
  (ofDigits? 10 (ds ++ List.replicate (6 - ds.length) '0')).getD 0

/-- Reads a time, and what may follow it, after the date. -/
def timeOf? (cs : List Char) : Option StampTime := do
  let rest ← match cs with
    | 'T' :: r | 't' :: r => some r
    | c :: _ => if oneOf " \t" c then some (cs.dropWhile (oneOf " \t")) else none
    | [] => none
  let (hour, rest) ← digitsBetween? 1 2 rest
  let rest ← expect? ':' rest
  let (minute, rest) ← digitsBetween? 2 2 rest
  let rest ← expect? ':' rest
  let (second, rest) ← digitsBetween? 2 2 rest
  let (fraction, rest) := match rest with
    | '.' :: r => (r.takeWhile isDigit, r.dropWhile isDigit)
    | r => ([], r)
  let offset ← offset? (rest.dropWhile (oneOf " \t"))
  some ⟨hour, minute, second, microseconds fraction, offset⟩

/-- Reads a date, which has two digits for month and day unless a time follows, and its time. -/
def stamp? (cs : List Char) : Option Stamp := do
  let (year, rest) ← digitsBetween? 4 4 cs
  let rest ← expect? '-' rest
  let (month, rest) ← digitsBetween? 1 2 rest
  let rest ← expect? '-' rest
  let (day, rest) ← digitsBetween? 1 2 rest
  if rest.isEmpty then some ⟨year, month, day, none⟩
  else
    let time ← timeOf? rest
    some ⟨year, month, day, some time⟩

/-- The text looks like a date. -/
def looksStamp (cs : List Char) : Bool :=
  match stamp? cs with
  | some s => s.time.isSome || cs.length == 10
  | none => false

/-- The words for true and false, in lower case. -/
def truthWords : List (String × Bool) :=
  [("yes", true), ("no", false), ("true", true), ("false", false), ("on", true), ("off", false)]

/-- The spellings of a word that count: in lower case, with a capital, and in capitals. -/
def spellings (word : String) : List (List Char) :=
  let cs := word.toList
  [cs, (cs.take 1).map Char.toUpper ++ cs.drop 1, cs.map Char.toUpper]

/-- The characters that decide what a text looks like: all but a line feed behind others. -/
def lookedAt (cs : List Char) : List Char :=
  if cs.getLast? == some '\n' && 1 < cs.length then cs.dropLast else cs

/-- The kind of a plain scalar without a tag. -/
def plainKind (s : String) : Kind :=
  let cs := lookedAt s.toList
  if cs.isEmpty || cs == ['~'] || (spellings "null").contains cs then .null
  else if truthWords.any fun e => (spellings e.1).contains cs then .boolean
  else if looksFloat cs then .float
  else if looksInteger cs then .integer
  else if cs == ['<', '<'] then .merge
  else if cs == ['='] then .default
  else if looksStamp cs then .timestamp
  else if ["!", "&", "*"].any fun mark => mark.toList == cs then .unknown
  else .text

/-! ## What a scalar of a kind denotes -/

/-- The truth value of a word in any case. -/
def booleanOf (s : String) : Except Fault Value :=
  let word := Text.lower s
  match truthWords.find? fun e => e.1 == word with
  | some e => .ok (.bool e.2)
  | none => .error (.noBoolean word)

/-- The text with no underscores in it. -/
def withoutLows (s : String) : List Char := s.toList.filter (· != '_')

/-- The letter that may mark the digits of a base, behind a zero. -/
def baseLetter? : Nat → Option Char
  | 2 => some 'b'
  | 8 => some 'o'
  | 16 => some 'x'
  | _ => none

/-- The digits without the mark of their base, if they have it. -/
def unmarked (base : Nat) : List Char → List Char
  | cs@('0' :: c :: ds) => if baseLetter? base == some c.toLower then ds else cs
  | cs => cs

/-- The most decimal digits that an integer may be written with. -/
def digitBound : Nat := 4300

/-- The integer that a text denotes in a base: digits with an optional sign, which may have blanks
around them and the mark of the base in front. In base ten there is a bound to the digits. -/
def integerIn (base : Nat) (cs : List Char) : Except Fault Int :=
  let (negative, ds) := Binary64.takeSign (Text.trimChars cs)
  let count := (ds.takeWhile isDigit).length
  if base = 10 && digitBound < count then .error (.tooManyDigits digitBound count)
  else match ofDigits? base (unmarked base ds) with
  | some n => .ok (if negative then -(n : Int) else n)
  | none => .error (.noInteger (String.ofList cs) base)

/-- The number of parts in base sixty. -/
def sixtyfold (parts : List Int) : Int := parts.foldl (fun n d => n * 60 + d) 0

/-- The integer a text denotes; there has to be a character behind the sign. -/
def integerOf (s : String) : Except Fault Value := do
  let (negative, cs) := Binary64.takeSign (withoutLows s)
  let n ← match cs with
    | [] => throw .noCharacter
    | ['0'] => pure 0
    | '0' :: 'b' :: ds => integerIn 2 ds
    | '0' :: 'x' :: ds => integerIn 16 ds
    | '0' :: _ => integerIn 8 cs
    | _ =>
      if cs.contains ':' then do
        let parts ← (splitAt ':' cs).mapM (integerIn 10)
        pure (sixtyfold parts)
      else integerIn 10 cs
  pure (.int (if negative then -n else n))

/-- The number that a decimal text denotes, which may have blanks around it. -/
def realIn (cs : List Char) : Except Fault Binary64 :=
  match Binary64.ofText? (String.ofList (Text.trimChars cs)) with
  | some x => .ok x
  | none => .error (.noFloat (String.ofList cs))

/-- The sum of parts in base sixty, the last one first, rounded at every step. -/
def sixtyfoldReal : List Binary64 → Nat → Binary64 → Binary64
  | [], _, total => total
  | d :: ds, base, total => sixtyfoldReal ds (base * 60) (total.add (d.scale base))

/-- The floating point number a text denotes. What is written as no number is the same value
wherever it stands; what turns out to be none is marked by the node that it comes from. -/
def floatOf (node : Nat) (s : String) : Except Fault Value := do
  let text := Text.lower (String.ofList (withoutLows s))
  if text.isEmpty then throw .noCharacter
  let (negative, cs) := Binary64.takeSign text.toList
  let x ← match cs with
    | ['.', 'i', 'n', 'f'] => pure (Binary64.infinity false)
    | ['.', 'n', 'a', 'n'] => pure (Binary64.markedNan 1)
    | _ =>
      if cs.contains ':' then do
        let parts ← (splitAt ':' cs).mapM realIn
        pure (sixtyfoldReal parts.reverse 1 (Binary64.ofMagnitude false 0))
      else realIn cs
  if x.isMarkedNan then pure (.float x)
  else if x.isNan then pure (.float (Binary64.markedNan (node + 2)))
  else pure (.float (if negative then x.neg else x))

/-- The date a text denotes, with its time if it has one. An offset from universal time has to be
less than a day. -/
def timestampOf (s : String) : Except Fault Value :=
  let checked {α : Type} (e : Except CalendarFault α) : Except Fault α :=
    e.mapError .calendar
  match stamp? (lookedAt s.toList) with
  | none => .error .noTimestamp
  | some stamp => do
    let offset := stamp.time.bind StampTime.offset
    if 24 * 60 ≤ (offset.getD 0).natAbs then throw (.offset (offset.getD 0))
    let date ← checked (Date.make stamp.year stamp.month stamp.day)
    match stamp.time with
    | none => pure (.date date)
    | some t => do
      let clock ← checked (Clock.make t.hour t.minute t.second t.microsecond)
      pure (.dateTime date clock offset)

/-- The place of a character in the alphabet of sixty-four digits. -/
def sixBits? (c : Char) : Option Nat :=
  if 'A' ≤ c && c ≤ 'Z' then some (c.toNat - 65)
  else if 'a' ≤ c && c ≤ 'z' then some (c.toNat - 71)
  else if '0' ≤ c && c ≤ '9' then some (c.toNat + 4)
  else if c = '+' then some 62
  else if c = '/' then some 63
  else none

/-- The octets that groups of four digits denote, of which `place` digits of the group at hand have
been read, with the bits `left` over from them and `pads` signs of filling behind them. A group that
is cut short has to be filled up, and nothing behind the filling counts; where no group is to be
filled up, the sign is passed over. -/
def octetsFrom (place left pads : Nat) : List (Option Nat) → Option (List UInt8)
  | [] => if place = 0 then some [] else none
  | none :: ds =>
    if place < 2 then octetsFrom place left pads ds
    else if 3 ≤ place + pads then some []
    else octetsFrom place left (pads + 1) ds
  | some d :: ds =>
    match place with
    | 0 => octetsFrom 1 d 0 ds
    | 1 => (octetsFrom 2 (d % 16) 0 ds).map (UInt8.ofNat (left * 4 + d / 16) :: ·)
    | 2 => (octetsFrom 3 (d % 4) 0 ds).map (UInt8.ofNat (left * 16 + d / 4) :: ·)
    | _ => (octetsFrom 0 0 0 ds).map (UInt8.ofNat (left * 64 + d) :: ·)

/-- The octets a text denotes in base sixty-four. Characters outside the alphabet are passed over,
those outside the seven-bit range are not allowed. -/
def binaryOf (s : String) : Except Fault Value :=
  if s.toList.any fun c => 0x80 ≤ c.toNat then .error .malformed
  else
    let digits := s.toList.filterMap fun c => if c = '=' then some none else (sixBits? c).map some
    match octetsFrom 0 0 0 digits with
    | some octets => .ok (.bytes octets)
    | none => .error .malformed

/-- The value of a scalar of a kind, which comes from the given node. -/
def scalarOf (node : Nat) (kind : Kind) (s : String) : Except Fault Value :=
  match kind with
  | .null => .ok .null
  | .boolean => booleanOf s
  | .integer => integerOf s
  | .float => floatOf node s
  | .timestamp => timestampOf s
  | .text => .ok (.text s)
  | .binary => binaryOf s
  | _ => .error .malformed

end PostQuery.Yaml
