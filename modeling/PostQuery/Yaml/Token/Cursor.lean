import PostQuery.Yaml.Token.Basic

/-!
# A place in a document

What is left of a document together with the line and the column it begins at. Line breaks are the
line feed, U+0085, U+2028 and U+2029; the first two are read as a line feed.
-/

namespace PostQuery.Yaml

/-- What is left of a document, and where it begins. -/
structure Cursor where
  rest : List Char
  index : Nat := 0
  line : Nat := 0
  column : Nat := 0

/-- The end of a document reads as this character, which no document holds. -/
def endMark : Char := '\x00'

/-- The byte order mark, which takes no room on its line. -/
def byteOrderMark : Char := Char.ofNat 0xFEFF

/-- The character breaks a line. -/
def isBreak (c : Char) : Bool :=
  c == '\n' || c == Char.ofNat 0x85 || c == Char.ofNat 0x2028 || c == Char.ofNat 0x2029

/-- The character breaks a line or ends the document. -/
def isLineEnd (c : Char) : Bool := c == endMark || isBreak c

/-- The character is a blank or ends a line. -/
def isBlankEnd (c : Char) : Bool := c == ' ' || isLineEnd c

/-- The character separates tokens: a blank, a tab, or the end of a line. -/
def isGap (c : Char) : Bool := c == '\t' || isBlankEnd c

/-- The character may be part of a name. -/
def isNameChar (c : Char) : Bool :=
  ('0' ≤ c && c ≤ '9') || ('A' ≤ c && c ≤ 'Z') || ('a' ≤ c && c ≤ 'z') || c == '-' || c == '_'

/-- The characters of a text contain the given one. -/
def oneOf (s : String) (c : Char) : Bool := s.toList.contains c

namespace Cursor

/-- The character a number of places ahead. -/
def ahead (c : Cursor) (n : Nat) : Char := c.rest.getD n endMark

/-- The next character. -/
def peek (c : Cursor) : Char := c.ahead 0

/-- Moves past one character. -/
def step (c : Cursor) : Cursor :=
  match c.rest with
  | [] => c
  | ch :: rest =>
    if isBreak ch then { rest, index := c.index + 1, line := c.line + 1, column := 0 }
    else
      { rest, index := c.index + 1, line := c.line
        column := if ch = byteOrderMark then c.column else c.column + 1 }

/-- Moves past a number of characters. -/
def skip : Nat → Cursor → Cursor
  | 0, c => c
  | n + 1, c => skip n c.step

/-- The characters in front that belong to a class, and what follows them. -/
def span (p : Char → Bool) (c : Cursor) : List Char × Cursor :=
  let cs := c.rest.takeWhile p
  (cs, c.skip cs.length)

/-- What follows the characters in front that belong to a class. -/
def dropWhile (p : Char → Bool) (c : Cursor) : Cursor := (c.span p).2

/-- The line break in front as it is read, if there is one. -/
def lineBreak (c : Cursor) : List Char × Cursor :=
  let ch := c.peek
  if ch = '\n' || ch = Char.ofNat 0x85 then (['\n'], c.step)
  else if isBreak ch then ([ch], c.step)
  else ([], c)

/-- Three equal characters and a gap are in front, as they begin or end a document. -/
def atMarker (mark : Char) (c : Cursor) : Bool :=
  c.rest.take 3 == [mark, mark, mark] && isGap (c.ahead 3)

/-- A marker that begins or ends a document is in front. -/
def atDocumentMarker (c : Cursor) : Bool := c.atMarker '-' || c.atMarker '.'

/-- Moves past blanks, and a comment if one follows. -/
def skipComment (c : Cursor) : Cursor :=
  let c := c.dropWhile (· == ' ')
  if c.peek = '#' then c.dropWhile (fun ch => !isLineEnd ch) else c

/-- Moves past the rest of a line that must be blank or a comment. -/
def endLine (c : Cursor) : Except Fault Cursor :=
  let c := c.skipComment
  if isLineEnd c.peek then .ok c.lineBreak.2 else .error .malformed

end Cursor

end PostQuery.Yaml
