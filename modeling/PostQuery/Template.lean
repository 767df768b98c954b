import PostQuery.Catalog
import PostQuery.Template.Field
import PostQuery.Value.Items

/-!
# Message templates

A template is a text with directives in it. A directive begins with a percent sign; a second one
behind it stands for the sign itself. Otherwise there come, each of them optional, a key in
parentheses, flags, a width, a precision and a size, and at last the conversion. Arguments are taken
in order, one by each conversion, star in place of a width and star in place of a precision; a key
takes the argument of that name out of a dictionary instead. In the end no argument may be left
over, unless they came as a dictionary.

A template is made of characters or of bytes. One of bytes names its keys by bytes, takes bytes
where the other takes a text, and makes bytes.
-/

namespace PostQuery

namespace Template

open Number

/-- The arguments that are still to be taken, and the dictionary they come from if they do. -/
structure Supply where
  args : List Value
  named : Option Dict

namespace Supply

/-- Takes the next argument. -/
def next (s : Supply) : Except Fault (Value × Supply) :=
  match s.args with
  | v :: rest => .ok (v, { s with args := rest })
  | [] => .error .tooFew

end Supply

/-- The characters of a template with their places. -/
abbrev Source := List (Char × Nat)

/-- The key up to the parenthesis that closes it, and what follows. Inner parentheses are part of
it if they are balanced. -/
def takeKey : Nat → Source → Option (List Char × Source)
  | _, [] => none
  | depth, (c, _) :: rest =>
    if c = ')' then
      match depth with
      | 0 => some ([], rest)
      | d + 1 => (takeKey d rest).map fun (key, r) => (c :: key, r)
    else
      (takeKey (if c = '(' then depth + 1 else depth) rest).map fun (key, r) => (c :: key, r)

/-- The bytes that characters below 256 stand for. -/
def octetsOf (cs : List Char) : List UInt8 := cs.map fun c => UInt8.ofNat c.toNat

/-- What the characters of a template make, as a value. -/
def Script.made : Script → List Char → Value
  | .characters, cs => .text (String.ofList cs)
  | .octets, cs => .bytes (octetsOf cs)

/-- Puts the argument that a key names in front, if there is a key. -/
def readKey (script : Script) (s : Supply) : Source → Except Fault (Supply × Source)
  | ('(', _) :: rest =>
    match s.named with
    | none => .error .needsDict
    | some d =>
      match takeKey 0 rest with
      | none => .error .openKey
      | some (key, rest) =>
        match d.get? (script.made key) with
        | some v => .ok ({ s with args := [v] }, rest)
        | none => .error (.unknownKey (script.made key))
  | source => .ok (s, source)

/-- The flags in front, in any order and number. -/
def readFlags (l : Layout) : Source → Layout × Source
  | ('-', _) :: rest => readFlags { l with left := true } rest
  | ('+', _) :: rest => readFlags { l with plus := true } rest
  | (' ', _) :: rest => readFlags { l with blank := true } rest
  | ('#', _) :: rest => readFlags { l with alternate := true } rest
  | ('0', _) :: rest => readFlags { l with zero := true } rest
  | source => (l, source)

/-- The digits in front as a number, which may not exceed a bound. -/
def readNumber (bound : Nat) (tooBig : Fault) (source : Source) : Except Fault (Nat × Source) :=
  let ds := source.takeWhile fun p => isDigit p.1
  let n := (ofDigits? 10 (ds.map Prod.fst)).getD 0
  if bound < n then .error tooBig else .ok (n, source.drop ds.length)

/-- The next argument as an integer, for a star. -/
def starValue (s : Supply) (bound : Nat) (cType : String) : Except Fault (Int × Supply) := do
  let (v, s) ← s.next
  let n ← match v with
    | .int n => pure n
    | .bool b => pure (if b then 1 else 0)
    | _ => throw .starNotInt
  if n < -(bound : Int) - 1 || (bound : Int) < n then throw (.starTooLarge cType)
  pure (n, s)

/-- The largest width. -/
def widthBound : Nat := Nat.pow 2 63 - 1

/-- The largest precision. -/
def precisionBound : Nat := Nat.pow 2 31 - 1

/-- The width in front, if there is one; a negative argument stands for the left side. -/
def readWidth (s : Supply) (l : Layout) (source : Source) :
    Except Fault (Layout × Supply × Source) :=
  match source with
  | ('*', _) :: rest => do
    let (n, s) ← starValue s widthBound "ssize_t"
    pure ({ l with left := l.left || n < 0, width := n.natAbs }, s, rest)
  | _ => do
    let (n, rest) ← readNumber widthBound .widthTooBig source
    pure ({ l with width := n }, s, rest)

/-- The precision in front, if there is one; a point alone is a precision of zero, and so is a
negative argument. -/
def readPrecision (script : Script) (s : Supply) (l : Layout) (source : Source) :
    Except Fault (Layout × Supply × Source) :=
  match source with
  | ('.', _) :: ('*', _) :: rest => do
    let (n, s) ← starValue s precisionBound "int"
    pure ({ l with precision := some n.toNat }, s, rest)
  | ('.', _) :: rest => do
    let (n, rest) ← readNumber precisionBound (.precisionTooBig script) rest
    pure ({ l with precision := some n }, s, rest)
  | _ => pure (l, s, source)

/-- What follows a size, which has no meaning. -/
def dropSize : Source → Source
  | source@((c, _) :: rest) => if c = 'h' || c = 'l' || c = 'L' then rest else source
  | [] => []

/-- The place has a byte beyond the seven bits, and no digit in front. -/
def noConversionAt (script : Script) (source : Source) (c : Char) (index : Nat) : Bool :=
  match script with
  | .characters => false
  | .octets => 128 ≤ c.toNat && !source.any fun p => p.2 + 1 == index && isDigit p.1

/-- What a directive makes, what it leaves of the arguments, and what follows it. -/
def directive (script : Script) (s : Supply) (source : Source) :
    Except Fault (List Char × Supply × Source) := do
  let (s, source) ← readKey script s source
  let (l, numbers) := readFlags {} source
  let (l, s, source) ← readWidth s l numbers
  let (l, s, source) ← readPrecision script s l source
  match dropSize source with
  | [] => throw .incomplete
  | (c, index) :: rest =>
    let (v, s) ← s.next
    if noConversionAt script numbers c index then throw .noConversion
    let made ← convert script l c index v
    pure (made, s, rest)

/-- Fills in a template. The number bounds the directives there are. -/
def fillFrom (script : Script) : Nat → Supply → Source → Except Fault (List Char)
  | _, s, [] => if s.named.isNone && !s.args.isEmpty then .error (.tooMany script) else .ok []
  | 0, _, _ => .error .incomplete
  | fuel + 1, s, (c, _) :: rest =>
    if c = '%' then
      match rest with
      | ('%', _) :: rest => (fillFrom script fuel s rest).map ('%' :: ·)
      | _ => do
        let (made, s, rest) ← directive script s rest
        let more ← fillFrom script fuel s rest
        pure (made ++ more)
    else (fillFrom script fuel s rest).map (c :: ·)

/-- Fills in a template; every character is gone through at most once. -/
def fillIn (script : Script) (template : List Char) (s : Supply) : Except Fault (List Char) :=
  let source := template.zipIdx
  fillFrom script (source.length + 1) s source

/-- Fills in a template that is a text. -/
def fill (template : String) (s : Supply) : Except Fault String :=
  (fillIn .characters template.toList s).map String.ofList

/-- Fills in a template that is made of bytes. -/
def fillOctets (template : List UInt8) (s : Supply) : Except Fault (List UInt8) :=
  (fillIn .octets (template.map Text.charOfByte) s).map octetsOf

end Template

namespace Catalog

/-- The template listed for a message, filled in with arguments: those of a dictionary by name, and
the items of any other value in order. Without arguments the template stays as it is. -/
def render (c : Catalog) (message : String) (args : Value) : Except Template.Fault Value :=
  let template := c.lookup message
  let filled (named : Option Dict) (items : List Value) (whole : Value) :
      Except Template.Fault Value :=
    match template with
    | .text t => (Template.fill t ⟨items, named⟩).map .text
    | .bytes t => (Template.fillOctets t ⟨items, named⟩).map .bytes
    | .buffer t => (Template.fillOctets t ⟨items, named⟩).map .buffer
    | t => .error (.notTemplate t whole)
  if !args.truthy then .ok template
  else match args with
    | .dict d => filled (some d) [args] args
    | args =>
      match args.items with
      | .ok items => filled none items (.tuple items)
      | .error m => .error (.misuse m)

end Catalog

end PostQuery
