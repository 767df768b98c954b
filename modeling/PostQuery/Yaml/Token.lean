import PostQuery.Yaml.Token.Block
import PostQuery.Yaml.Token.Inline
import PostQuery.Yaml.Token.Tag

/-!
# Tokens of a YAML document

A document is cut into tokens from left to right. Indentation is made explicit: a block collection
begins with a token of its own where a line is indented further, and ends where one is indented
less. Inside brackets indentation means nothing.

A mapping key is recognised only by the colon behind it, so whatever may be a key is remembered
with its place, and the key token is put in at that place once the colon comes. A key has to end on
its line and within 1024 characters, and where the indentation shows that a key must come, its
colon must come too.
-/

namespace PostQuery.Yaml

/-- Something that is a key if a colon comes in time. -/
structure PossibleKey where
  /-- The flow level it stands on. -/
  flow : Int
  /-- How many tokens stand before it. -/
  place : Nat
  required : Bool
  index : Nat
  line : Nat
  column : Nat

structure Tokenizer where
  cursor : Cursor
  /-- The tokens so far, the latest first. -/
  tokens : List Token := []
  count : Nat := 0
  flow : Int := 0
  indent : Int := -1
  indents : List Int := []
  allowKey : Bool := true
  keys : List PossibleKey := []
  done : Bool := false

namespace Tokenizer

/-- The place is inside brackets. -/
def inFlow (s : Tokenizer) : Bool := s.flow != 0

/-- Appends a token. -/
def emit (s : Tokenizer) (t : Token) : Tokenizer :=
  { s with tokens := t :: s.tokens, count := s.count + 1 }

/-- Puts a token in front of those after the given place. -/
def insert (s : Tokenizer) (place : Nat) (t : Token) : Tokenizer :=
  let later := s.count - place
  { s with
    tokens := s.tokens.take later ++ t :: s.tokens.drop later
    count := s.count + 1 }

/-- Gives up the keys whose colon can no longer come. -/
def forgetStale (s : Tokenizer) : Except Fault Tokenizer :=
  let stale (k : PossibleKey) : Bool :=
    k.line != s.cursor.line || 1024 < s.cursor.index - k.index
  if s.keys.any fun k => stale k && k.required then .error .malformed
  else .ok { s with keys := s.keys.filter fun k => !stale k }

/-- Gives up the key of this flow level. -/
def forgetKey (s : Tokenizer) : Except Fault Tokenizer :=
  if s.keys.any fun k => k.flow == s.flow && k.required then .error .malformed
  else .ok { s with keys := s.keys.filter fun k => k.flow != s.flow }

/-- Remembers that a key may begin here. -/
def rememberKey (s : Tokenizer) : Except Fault Tokenizer :=
  if s.allowKey then do
    let s ← s.forgetKey
    let key : PossibleKey :=
      { flow := s.flow, place := s.count, required := !s.inFlow && s.indent == s.cursor.column
        index := s.cursor.index, line := s.cursor.line, column := s.cursor.column }
    pure { s with keys := key :: s.keys }
  else .ok s

/-- Ends the block collections that are indented further than a column, looking at the given
enclosing indentations. -/
def closeTo (column : Int) : List Int → Tokenizer → Tokenizer
  | [], s => s
  | i :: rest, s =>
    if column < s.indent then
      closeTo column rest { s.emit .blockEnd with indent := i, indents := rest }
    else s

/-- Ends the block collections that are indented further than a column. -/
def closeDeeper (s : Tokenizer) (column : Int) : Tokenizer :=
  if s.inFlow then s else closeTo column s.indents s

/-- Begins a block collection at a column that is indented further. -/
def deepen? (s : Tokenizer) (column : Int) : Option Tokenizer :=
  if s.indent < column then some { s with indents := s.indent :: s.indents, indent := column }
  else none

/-- Moves on to the next token: past blanks, comments and line breaks. After a line break outside
brackets a key may come. -/
def skipGaps : Nat → Tokenizer → Tokenizer
  | 0, s => s
  | fuel + 1, s =>
    let c := s.cursor.skipComment
    if isBreak c.peek then
      skipGaps fuel { s with cursor := c.lineBreak.2, allowKey := s.allowKey || !s.inFlow }
    else { s with cursor := c }

/-- The end of the document, or of the block collections before a marker or a directive. -/
def closeBlocks (s : Tokenizer) : Except Fault Tokenizer := do
  let s ← (s.closeDeeper (-1)).forgetKey
  pure { s with allowKey := false }

/-- Moves past one character and appends its token. -/
def advance (s : Tokenizer) (t : Token) : Tokenizer := { s.emit t with cursor := s.cursor.step }

/-- A bracket or brace that opens. -/
def openFlow (s : Tokenizer) (t : Token) : Except Fault Tokenizer := do
  let s ← s.rememberKey
  pure ({ s with flow := s.flow + 1, allowKey := true }.advance t)

/-- A bracket or brace that closes. -/
def closeFlow (s : Tokenizer) (t : Token) : Except Fault Tokenizer := do
  let s ← s.forgetKey
  pure ({ s with flow := s.flow - 1, allowKey := false }.advance t)

/-- Begins a block collection here if this line is indented further; outside brackets it must be a
place where a key may come. -/
def openBlock (s : Tokenizer) (t : Token) : Except Fault Tokenizer :=
  if s.inFlow then .ok s
  else if !s.allowKey then .error .malformed
  else match s.deepen? s.cursor.column with
    | some s => .ok (s.emit t)
    | none => .ok s

/-- A dash that begins an entry. -/
def entry (s : Tokenizer) : Except Fault Tokenizer := do
  let s ← s.openBlock .blockSequence
  let s ← { s with allowKey := true }.forgetKey
  pure (s.advance .blockEntry)

/-- A question mark that begins a key. -/
def explicitKey (s : Tokenizer) : Except Fault Tokenizer := do
  let s ← s.openBlock .blockMapping
  let s ← { s with allowKey := !s.inFlow }.forgetKey
  pure (s.advance .key)

/-- A colon. What may have been a key on this flow level is one. -/
def value (s : Tokenizer) : Except Fault Tokenizer :=
  match s.keys.find? fun k => k.flow == s.flow with
  | some k =>
    let s := { s with keys := s.keys.filter fun k => k.flow != s.flow }.insert k.place .key
    let s :=
      if s.inFlow then s
      else match s.deepen? k.column with
        | some s => s.insert k.place .blockMapping
        | none => s
    .ok ({ s with allowKey := false }.advance .value)
  | none => do
    let s ← s.openBlock .blockMapping
    let s ← { s with allowKey := !s.inFlow }.forgetKey
    pure (s.advance .value)

/-- A token that may begin a key, read by a function. -/
def keyed (s : Tokenizer) (read : Cursor → Except Fault (Token × Cursor)) :
    Except Fault Tokenizer := do
  let s ← s.rememberKey
  let (t, cursor) ← read s.cursor
  pure { s.emit t with cursor, allowKey := false }

/-- A block scalar. -/
def block (s : Tokenizer) (folded : Bool) : Except Fault Tokenizer := do
  let s ← { s with allowKey := true }.forgetKey
  let (text, cursor) ← readBlockScalar folded s.indent s.cursor
  pure { s.emit (.scalar text false) with cursor }

/-- A plain scalar, after whose line breaks a key may come. -/
def plain (s : Tokenizer) : Except Fault Tokenizer := do
  let s ← s.rememberKey
  let (text, allowKey, cursor) :=
    readPlain s.inFlow (s.indent + 1) (s.cursor.rest.length + 1) s.cursor [] false
  pure { s.emit (.scalar (String.ofList text) true) with cursor, allowKey }

/-- A plain scalar can begin here. -/
def atPlain (s : Tokenizer) : Bool :=
  let ch := s.cursor.peek
  let next := s.cursor.ahead 1
  !(isGap ch || oneOf "-?:,[]\x7b\x7d#&*!|>'\"%@\x60" ch)
    || (!isGap next && (ch == '-' || (!s.inFlow && oneOf "?:" ch)))

/-- Reads the next token. -/
def next (s : Tokenizer) : Except Fault Tokenizer := do
  let s := skipGaps (s.cursor.rest.length + 1) s
  let s ← s.forgetStale
  let s := s.closeDeeper s.cursor.column
  let c := s.cursor
  let ch := c.peek
  let following := c.ahead 1
  if ch = endMark then
    let s ← s.closeBlocks
    pure { s.emit .streamEnd with keys := [], done := true }
  else if ch = '%' && c.column = 0 then
    let s ← s.closeBlocks
    let (d, cursor) ← readDirective s.cursor
    pure { s.emit (.directive d) with cursor }
  else if c.column = 0 && c.atMarker '-' then
    let s ← s.closeBlocks
    pure { s.emit .documentStart with cursor := c.skip 3 }
  else if c.column = 0 && c.atMarker '.' then
    let s ← s.closeBlocks
    pure { s.emit .documentEnd with cursor := c.skip 3 }
  else if ch = '[' then s.openFlow .flowSequence
  else if ch = '\x7b' then s.openFlow .flowMapping
  else if ch = ']' then s.closeFlow .flowSequenceEnd
  else if ch = '\x7d' then s.closeFlow .flowMappingEnd
  else if ch = ',' then
    let s ← { s with allowKey := true }.forgetKey
    pure (s.advance .flowEntry)
  else if ch = '-' && isGap following then s.entry
  else if ch = '?' && (s.inFlow || isGap following) then s.explicitKey
  else if ch = ':' && (s.inFlow || isGap following) then s.value
  else if ch = '*' then
    s.keyed fun c => (readAnchor c).map fun (name, c) => (.alias name, c)
  else if ch = '&' then
    s.keyed fun c => (readAnchor c).map fun (name, c) => (.anchor name, c)
  else if ch = '!' then s.keyed readTag
  else if ch = '|' && !s.inFlow then s.block false
  else if ch = '>' && !s.inFlow then s.block true
  else if ch = '\'' || ch = '"' then
    s.keyed fun c =>
      (readQuoted (ch == '"') (c.rest.length + 1) c.step).map fun (text, c) =>
        (.scalar (String.ofList text) false, c)
  else if s.atPlain then s.plain
  else throw .malformed

/-- Reads tokens to the end, or to the first fault. Every token but the last takes a character. -/
def run : Nat → Tokenizer → List Token
  | 0, s => (Token.fault .malformed :: s.tokens).reverse
  | fuel + 1, s =>
    if s.done then s.tokens.reverse
    else match s.next with
      | .ok s => run fuel s
      | .error f => (Token.fault f :: s.tokens).reverse

end Tokenizer

/-- The tokens of a document, the last of which is its end or a fault. A byte order mark at the
beginning is left out. -/
def tokenize (cs : List Char) : List Token :=
  let cursor : Cursor := { rest := cs }
  let cursor := if cursor.peek = byteOrderMark then cursor.step else cursor
  Tokenizer.run (cs.length + 2) { cursor }

end PostQuery.Yaml
