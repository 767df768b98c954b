import PostQuery.Yaml.Token.Cursor

/-!
# Block scalars

A text of whole lines under an indentation. It keeps its line breaks or folds them into blanks, and
what happens to the breaks at its end is said in front of it.
-/

namespace PostQuery.Yaml

/-- What a block scalar does with the line breaks it ends in. -/
inductive Chomping where
  | strip
  | clip
  | keep
  deriving DecidableEq

/-- The chomping that a character asks for. -/
def chomping? (c : Char) : Option Chomping :=
  if c = '+' then some .keep else if c = '-' then some .strip else none

/-- The indentation that a character asks for. -/
def increment? (c : Char) : Except Fault (Option Nat) :=
  if c = '0' then .error .malformed
  else if Number.isDigit c then .ok (some (c.toNat - '0'.toNat)) else .ok none

/-- Chomping and indentation in either order, each of them optional. -/
def readIndicators (c : Cursor) : Except Fault (Chomping × Option Nat × Cursor) := do
  let (chomping, increment, c) ←
    match chomping? c.peek with
    | some chomping => do
      let increment ← increment? c.step.peek
      pure (chomping, increment, if increment.isSome then c.step.step else c.step)
    | none => do
      let increment ← increment? c.peek
      if increment.isNone then pure (Chomping.clip, none, c)
      else match chomping? c.step.peek with
        | some chomping => pure (chomping, increment, c.step.step)
        | none => pure (Chomping.clip, increment, c.step)
  if isBlankEnd c.peek then pure (chomping, increment, c) else throw .malformed

/-- Blank lines in front of a block scalar, with the widest indentation among them. -/
def readLeading : Nat → Cursor → Nat → List Char × Nat × Cursor
  | 0, c, widest => ([], widest, c)
  | fuel + 1, c, widest =>
    if c.peek = ' ' then readLeading fuel c.step (max widest c.step.column)
    else if isBreak c.peek then
      let (cs, c) := c.lineBreak
      let (more, widest, c) := readLeading fuel c widest
      (cs ++ more, widest, c)
    else ([], widest, c)

/-- Moves past blanks up to a column. -/
def indentTo (column : Nat) (c : Cursor) : Cursor :=
  c.skip (min (column - c.column) (c.rest.takeWhile (· == ' ')).length)

/-- Line breaks between the lines of a block scalar, up to the indentation of the next line. -/
def readBreaks : Nat → Nat → Cursor → List Char × Cursor
  | 0, _, c => ([], c)
  | fuel + 1, column, c =>
    let c := indentTo column c
    if isBreak c.peek then
      let (cs, c) := c.lineBreak
      let (more, c) := readBreaks fuel column c
      (cs ++ more, c)
    else ([], c)

/-- The lines of a block scalar from one that begins at its column: the text with the breaks
between lines, the break after the last line and the breaks behind that. A folded break becomes a
blank unless a line next to it begins with one or other breaks follow. -/
def readLines (folded : Bool) (column : Nat) :
    Nat → Cursor → List Char → List Char × List Char × List Char × Cursor
  | 0, c, breaks => ([], [], breaks, c)
  | fuel + 1, c, breaks =>
    let flush := !(oneOf " \t" c.peek)
    let (text, c) := c.span fun ch => !isLineEnd ch
    let (lineBreak, c) := c.lineBreak
    let (next, c) := readBreaks c.rest.length.succ column c
    if c.column = column && c.peek ≠ endMark then
      let joint :=
        if folded && lineBreak == ['\n'] && flush && !(oneOf " \t" c.peek) then
          if next.isEmpty then [' '] else []
        else lineBreak
      let (more, last, breaks', c) := readLines folded column fuel c next
      (breaks ++ text ++ joint ++ more, last, breaks', c)
    else (breaks ++ text, lineBreak, next, c)

/-- A block scalar under the given indentation. -/
def readBlockScalar (folded : Bool) (indent : Int) (c : Cursor) :
    Except Fault (String × Cursor) := do
  let (chomping, increment, c) ← readIndicators c.step
  let c ← c.endLine
  let least := max 1 (indent + 1).toNat
  let (breaks, column, c) := match increment with
    | none =>
      let (breaks, widest, c) := readLeading (c.rest.length + 1) c 0
      (breaks, max least widest, c)
    | some n =>
      let column := least + n - 1
      let (breaks, c) := readBreaks (c.rest.length + 1) column c
      (breaks, column, c)
  let (text, last, breaks, c) :=
    if c.column = column && c.peek ≠ endMark then
      readLines folded column (c.rest.length + 1) c breaks
    else ([], [], breaks, c)
  let ending := match chomping with
    | .strip => []
    | .clip => last
    | .keep => last ++ breaks
  pure (String.ofList (text ++ ending), c)

end PostQuery.Yaml
