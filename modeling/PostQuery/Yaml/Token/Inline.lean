import PostQuery.Yaml.Token.Cursor

/-!
# Quoted and plain scalars

A text between quotes, or one without quotes that ends where it may be taken for something else. A
single break between its lines is a blank, of several the first is dropped. Double quotes allow
escapes.
-/

namespace PostQuery.Yaml

/-- The escapes of one letter in double quotes. -/
def escape? (c : Char) : Option Char :=
  match c with
  | '0' => some (Char.ofNat 0)
  | 'a' => some (Char.ofNat 7)
  | 'b' => some (Char.ofNat 8)
  | 't' | '\t' => some '\t'
  | 'n' => some '\n'
  | 'v' => some (Char.ofNat 0xB)
  | 'f' => some (Char.ofNat 0xC)
  | 'r' => some '\r'
  | 'e' => some (Char.ofNat 0x1B)
  | ' ' | '"' | '\\' | '/' => some c
  | 'N' => some (Char.ofNat 0x85)
  | '_' => some (Char.ofNat 0xA0)
  | 'L' => some (Char.ofNat 0x2028)
  | 'P' => some (Char.ofNat 0x2029)
  | _ => none

/-- How many hexadecimal digits follow a letter in double quotes. -/
def escapeLength? (c : Char) : Option Nat :=
  match c with
  | 'x' => some 2
  | 'u' => some 4
  | 'U' => some 8
  | _ => none

/-- Line breaks inside quotes, with the blanks around them. A document may not end there. -/
def readQuotedBreaks : Nat → Cursor → Except Fault (List Char × Cursor)
  | 0, c => .ok ([], c)
  | fuel + 1, c =>
    if c.atDocumentMarker then .error .malformed
    else
      let c := c.dropWhile (oneOf " \t")
      if isBreak c.peek then do
        let (cs, c) := c.lineBreak
        let (more, c) ← readQuotedBreaks fuel c
        pure (cs ++ more, c)
      else .ok ([], c)

/-- A number of as many hexadecimal digits as asked for. -/
def hexNumber? (length : Nat) (cs : List Char) : Option Nat :=
  let ds := cs.take length
  if ds.length < length then none else Number.ofDigits? 16 ds

/-- The second half of a character that is written as two escapes of four digits. -/
def secondHalf? : List Char → Option Nat
  | '\\' :: 'u' :: cs =>
    (hexNumber? 4 cs).filter fun n => 0xDC00 ≤ n && n ≤ 0xDFFF
  | _ => none

/-- An escape in double quotes, after the backslash. -/
def readEscape (c : Cursor) : Except Fault (List Char × Cursor) :=
  match escape? c.peek, escapeLength? c.peek with
  | some ch, _ => .ok ([ch], c.step)
  | none, some length =>
    match hexNumber? length c.step.rest with
    | none => .error .malformed
    | some n =>
      if 0x10FFFF < n then .error (.codePoint n)
      else
        let c := c.skip (length + 1)
        match secondHalf? c.rest with
        | some low =>
          if 0xD800 ≤ n && n ≤ 0xDBFF then
            .ok ([Char.ofNat (0x10000 + (n - 0xD800) * 0x400 + (low - 0xDC00))], c.skip 6)
          else .ok ([Char.ofNat n], c)
        | none => .ok ([Char.ofNat n], c)
  | none, none =>
    if isBreak c.peek then readQuotedBreaks (c.rest.length + 1) c.lineBreak.2 else .error .malformed

/-- The text inside quotes up to the closing one. A single break between lines is a blank, of
several the first is dropped, and blanks next to breaks are. -/
def readQuoted (double : Bool) : Nat → Cursor → Except Fault (List Char × Cursor)
  | 0, _ => .error .malformed
  | fuel + 1, c =>
    let ch := c.peek
    let quote := if double then '"' else '\''
    if ch = quote then
      if !double && c.ahead 1 = '\'' then do
        let (more, c) ← readQuoted double fuel (c.skip 2)
        pure ('\'' :: more, c)
      else .ok ([], c.step)
    else if double && ch = '\\' then do
      let (cs, c) ← readEscape c.step
      let (more, c) ← readQuoted double fuel c
      pure (cs ++ more, c)
    else if isGap ch then do
      let (blanks, c) := c.span (oneOf " \t")
      if c.peek = endMark then throw .malformed
      if isBreak c.peek then
        let (lineBreak, c) := c.lineBreak
        let (breaks, c) ← readQuotedBreaks (c.rest.length + 1) c
        let joint :=
          if lineBreak != ['\n'] then lineBreak else if breaks.isEmpty then [' '] else []
        let (more, c) ← readQuoted double fuel c
        pure (joint ++ breaks ++ more, c)
      else
        let (more, c) ← readQuoted double fuel c
        pure (blanks ++ more, c)
    else do
      let (more, c) ← readQuoted double fuel c.step
      pure (ch :: more, c)

/-- The character ends a run of a plain scalar, given the one behind it. -/
def endsPlain (inFlow : Bool) (ch next : Char) : Bool :=
  isGap ch || (ch == ':' && (isGap next || (inFlow && oneOf ",[]\x7b\x7d" next)))
    || (inFlow && oneOf ",?[]\x7b\x7d" ch)

/-- The characters of a plain scalar up to a gap or an indicator. -/
def plainRun (inFlow : Bool) : List Char → List Char
  | [] => []
  | ch :: rest =>
    if endsPlain inFlow ch (rest.headD endMark) then [] else ch :: plainRun inFlow rest

/-- Blanks and breaks after the first break inside a plain scalar, unless a document ends there. -/
def readPlainBreaks : Nat → Cursor → Option (List Char) × Cursor
  | 0, c => (some [], c)
  | fuel + 1, c =>
    if c.atDocumentMarker then (none, c)
    else
      let c := c.dropWhile (· == ' ')
      if isBreak c.peek then
        let (cs, c) := c.lineBreak
        match readPlainBreaks fuel c with
        | (some more, c) => (some (cs ++ more), c)
        | (none, c) => (none, c)
      else (some [], c)

/-- What stands between two runs of a plain scalar, and whether a line was broken there. Nothing
means that the scalar is over. -/
def readPlainSpaces (c : Cursor) : List Char × Bool × Cursor :=
  let (blanks, c) := c.span (· == ' ')
  if isBreak c.peek then
    let (lineBreak, c) := c.lineBreak
    match readPlainBreaks (c.rest.length + 1) c with
    | (none, c) => ([], true, c)
    | (some breaks, c) =>
      let joint := if lineBreak != ['\n'] then lineBreak else if breaks.isEmpty then [' '] else []
      (joint ++ breaks, true, c)
  else (blanks, false, c)

/-- The runs of a plain scalar and whether a key may follow it. -/
def readPlain (inFlow : Bool) (indent : Int) :
    Nat → Cursor → List Char → Bool → List Char × Bool × Cursor
  | 0, c, _, allowKey => ([], allowKey, c)
  | fuel + 1, c, spaces, allowKey =>
    let run := if c.peek = '#' then [] else plainRun inFlow c.rest
    if run.isEmpty then ([], allowKey, c)
    else
      let c := c.skip run.length
      let (between, broken, c) := readPlainSpaces c
      if between.isEmpty || c.peek = '#' || (!inFlow && (c.column : Int) < indent) then
        (spaces ++ run, broken, c)
      else
        let (more, allowKey, c) := readPlain inFlow indent fuel c between broken
        (spaces ++ run ++ more, allowKey, c)

end PostQuery.Yaml
