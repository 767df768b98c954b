import PostQuery.Text.PrintableRuns

/-!
# Quoted text

The written form of a text or of a run of bytes. Single quotes enclose it, unless it holds a single
quote and no double quote. Inside, the backslash and the enclosing quote are escaped, tab, line feed
and carriage return have their letters, and what has no printed form is written as a hexadecimal
escape of two, four or eight digits.
-/

namespace PostQuery.Text

/-- The character has a printed form. -/
def isPrintable (c : Char) : Bool :=
  if c.toNat < 0x80 then 0x20 ≤ c.toNat && c.toNat < 0x7F else !inRuns unprintableRuns c.toNat

/-- The lower-case hexadecimal digits of a number, at least `width` of them. -/
def hexDigits (width n : Nat) : List Char :=
  let digits := Nat.toDigits 16 n
  List.replicate (width - digits.length) '0' ++ digits

/-- The hexadecimal escape of a code point: two digits if they suffice, else four, else eight. -/
def hexEscape (n : Nat) : List Char :=
  if n < 0x100 then '\\' :: 'x' :: hexDigits 2 n
  else if n < 0x10000 then '\\' :: 'u' :: hexDigits 4 n
  else '\\' :: 'U' :: hexDigits 8 n

/-- The quote that encloses a text. -/
def quoteFor (cs : List Char) : Char :=
  if cs.contains '\'' && !cs.contains '"' then '"' else '\''

/-- A character as it stands between the given quotes, where `shown` tells which characters stand
for themselves. -/
def escapeChar (shown : Char → Bool) (quote c : Char) : List Char :=
  if c = quote || c = '\\' then ['\\', c]
  else if c = '\t' then ['\\', 't']
  else if c = '\n' then ['\\', 'n']
  else if c = '\r' then ['\\', 'r']
  else if shown c then [c]
  else hexEscape c.toNat

/-- The written form of a text. -/
def quote (s : String) : String :=
  let cs := s.toList
  let q := quoteFor cs
  String.ofList (q :: cs.flatMap (escapeChar isPrintable q) ++ [q])

/-- A byte as the character of the same number. -/
def charOfByte (b : UInt8) : Char := Char.ofNat b.toNat

/-- The character is printable and of the seven-bit range. -/
def isPlain (c : Char) : Bool := 0x20 ≤ c.toNat && c.toNat < 0x7F

/-- A letter b and a run of bytes between quotes. Every byte outside the printable seven-bit range
is a two-digit escape; which quote is escaped depends on the one that encloses the run. -/
def quoteOctets (escaped : Char → Char) (octets : List UInt8) : String :=
  let cs := octets.map charOfByte
  let q := quoteFor cs
  String.ofList ('b' :: q :: cs.flatMap (escapeChar isPlain (escaped q)) ++ [q])

/-- The written form of a run of bytes, in which the enclosing quote is escaped. -/
def quoteBytes (octets : List UInt8) : String := quoteOctets id octets

/-- The written form of the bytes of a buffer, in which the single quote is escaped even where the
double one encloses them. -/
def quoteBuffer (octets : List UInt8) : String := quoteOctets (fun _ => '\'') octets

/-- A written form with every character outside the seven-bit range replaced by its escape. -/
def escapeWide (s : String) : String :=
  String.ofList (s.toList.flatMap fun c => if c.toNat < 0x80 then [c] else hexEscape c.toNat)

end PostQuery.Text
