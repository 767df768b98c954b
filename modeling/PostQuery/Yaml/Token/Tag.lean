import PostQuery.Yaml.Token.Cursor
import PostQuery.Text.Utf8

/-!
# Directives, anchors and tags

A directive stands on a line of its own and begins with a percent sign, an anchor and an alias are
names behind a sign, and a tag is a handle and the rest of an address, in which bytes may be written
in hexadecimal.
-/

namespace PostQuery.Yaml

/-- A name of at least one character. -/
def readName (c : Cursor) : Except Fault (String × Cursor) :=
  let (cs, c) := c.span isNameChar
  if cs.isEmpty then .error .malformed else .ok (String.ofList cs, c)

/-- A number of at least one digit. -/
def readNumber (c : Cursor) : Except Fault (Nat × Cursor) :=
  let (cs, c) := c.span Number.isDigit
  match Number.ofDigits? 10 cs with
  | some n => .ok (n, c)
  | none => .error .malformed

/-- The handle of a tag: an exclamation mark, or a name between two of them. -/
def readHandle (c : Cursor) : Except Fault (String × Cursor) :=
  if c.peek ≠ '!' then .error .malformed
  else
    let c := c.step
    if c.peek = ' ' then .ok ("!", c)
    else
      let (cs, c) := c.span isNameChar
      if c.peek = '!' then .ok (String.ofList ('!' :: cs ++ ['!']), c.step) else .error .malformed

/-- The octets of a run of percent escapes. -/
def readEscapes : Nat → Cursor → Except Fault (List UInt8 × Cursor)
  | 0, c => .ok ([], c)
  | fuel + 1, c =>
    if c.peek = '%' then
      match Number.ofDigits? 16 (c.step.rest.take 2), (c.step.rest.take 2).length with
      | some n, 2 => do
        let (octets, c) ← readEscapes fuel (c.skip 3)
        pure (UInt8.ofNat n :: octets, c)
      | _, _ => .error .malformed
    else .ok ([], c)

/-- The character may be part of a tag. -/
def isUriChar (c : Char) : Bool :=
  ('0' ≤ c && c ≤ '9') || ('A' ≤ c && c ≤ 'Z') || ('a' ≤ c && c ≤ 'z')
    || oneOf "-;/?:@&=+$,_.!~*'()[]%" c

/-- The characters of a tag, with runs of percent escapes decoded. -/
def readUriChars : Nat → Cursor → Except Fault (List Char × Cursor)
  | 0, c => .ok ([], c)
  | fuel + 1, c =>
    if c.peek = '%' then do
      let (octets, c) ← readEscapes c.rest.length c
      match Text.Utf8.decode octets with
      | .ok cs =>
        let (more, c) ← readUriChars fuel c
        pure (cs ++ more, c)
      | .error _ => throw .malformed
    else if isUriChar c.peek then do
      let (more, c') ← readUriChars fuel c.step
      pure (c.peek :: more, c')
    else .ok ([], c)

/-- A tag of at least one character. -/
def readUri (c : Cursor) : Except Fault (String × Cursor) := do
  let (cs, c') ← readUriChars (c.rest.length + 1) c
  if cs.isEmpty && c'.index = c.index then throw .malformed
  pure (String.ofList cs, c')

/-- A directive, from the percent sign to the end of its line. -/
def readDirective (c : Cursor) : Except Fault (Directive × Cursor) := do
  let (name, c) ← readName c.step
  if !isBlankEnd c.peek then throw .malformed
  let (d, c) ←
    if name = "YAML" then do
      let (major, c) ← readNumber (c.dropWhile (· == ' '))
      if c.peek ≠ '.' then throw .malformed
      let (minor, c) ← readNumber c.step
      if !isBlankEnd c.peek then throw .malformed
      pure (Directive.version major minor, c)
    else if name = "TAG" then do
      let (handle, c) ← readHandle (c.dropWhile (· == ' '))
      if c.peek ≠ ' ' then throw .malformed
      let (leading, c) ← readUri (c.dropWhile (· == ' '))
      if !isBlankEnd c.peek then throw .malformed
      pure (Directive.tag handle leading, c)
    else pure (Directive.other, c.dropWhile fun ch => !isLineEnd ch)
  let c ← c.endLine
  pure (d, c)

/-- The name of an anchor or an alias, after the character that marks it. -/
def readAnchor (c : Cursor) : Except Fault (String × Cursor) := do
  let (name, c) ← readName c.step
  if isGap c.peek || oneOf "?:,]%@\x7d\x60" c.peek then pure (name, c) else throw .malformed

/-- A tag. One in angle brackets is given in full, an exclamation mark alone is the tag that says
nothing, and any other begins with a handle. -/
def readTag (c : Cursor) : Except Fault (Token × Cursor) := do
  let next := c.ahead 1
  let (token, c) ←
    if next = '<' then do
      let (uri, c) ← readUri (c.skip 2)
      if c.peek ≠ '>' then throw .malformed
      pure (Token.tag none uri, c.step)
    else if isGap next then pure (Token.tag none "!", c.step)
    else
      let word := c.step.rest.takeWhile fun ch => !isBlankEnd ch
      if word.contains '!' then do
        let (handle, c) ← readHandle c
        let (suffix, c) ← readUri c
        pure (Token.tag (some handle) suffix, c)
      else do
        let (suffix, c) ← readUri c.step
        pure (Token.tag (some "!") suffix, c)
  if isBlankEnd c.peek then pure (token, c) else throw .malformed

end PostQuery.Yaml
