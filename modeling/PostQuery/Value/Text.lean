import PostQuery.Value.Basic
import PostQuery.Text.Blank
import PostQuery.Text.Lower
import PostQuery.Text.Quoted
import PostQuery.Number.Places

/-!
# The two texts of a value

`inspect` is the unambiguous text: texts are quoted, dates and decimals name their type, collections
show their brackets, and a tree shows its kind and its terms. `display` is the plain one: a text is
itself, a decimal has its digits, a date its ISO form, a member of an enumeration its qualified
name. All other values have one text for both purposes.

The kind of a node is compared and shown by its key: the kind, opened once, displayed, trimmed and
in lower case.
-/

namespace PostQuery.Value

/-- Texts with a comma and a blank between them. -/
def commas (parts : List String) : String := String.intercalate ", " parts

/-- Opening and closing brace, in which sets and dictionaries are written. -/
def braced (s : String) : String := "\x7b" ++ s ++ "\x7d"

/-- A member of an enumeration, with its inspected value. -/
def memberText (enumeration name value : String) : String :=
  "<" ++ enumeration ++ "." ++ name ++ ": " ++ value ++ ">"

/-- The fields of a date, for its written form. -/
def dateFields (d : Date) : List Nat := [d.year, d.month, d.day]

/-- A date or time by its fields, and by its offset if it has one. -/
def calendarText (name : String) (fields : List Nat) (offset : Option Offset) : String :=
  "datetime." ++ name ++ "("
    ++ commas (fields.map unpadded ++ (offset.map fun o => "tzinfo=" ++ o.shown).toList) ++ ")"

/-- The plain text of a value with no values inside whose plain text is not the inspected one. -/
def plain? : Value → Option String
  | .text s => some s
  | .decimal d => some d.text
  | .dateTime d t offset =>
    some (d.isoText ++ " " ++ t.isoText ++ (offset.map Offset.isoText).getD "")
  | .date d => some d.isoText
  | .time t => some t.isoText
  | .junction j => some ("BooleanType." ++ j.name)
  | .comparison c => some ("RelationalType." ++ c.name)
  | .mode m => some ("RelationMode." ++ m.name)
  | .context c => some ("OperatorContext." ++ c.name)
  | .member enumeration name _ => some (enumeration.name ++ "." ++ name)
  | .object o => o.text
  | _ => none

/-- The key form of a kind's plain text. -/
def keyForm (s : String) : String := Text.lower (Text.trim s)

mutual

/-- The unambiguous text of a value. -/
def inspect : Value → String
  | .null => "None"
  | .bool b => if b then "True" else "False"
  | .int n => Number.intText n
  | .float x => Number.floatText x
  | .decimal d => "Decimal('" ++ d.text ++ "')"
  | .text s => Text.quote s
  | .bytes octets => Text.quoteBytes octets
  | .buffer octets => "bytearray(" ++ Text.quoteBuffer octets ++ ")"
  | .dateTime d t offset => calendarText "datetime" (dateFields d ++ t.shownFields) offset
  | .date d => calendarText "date" (dateFields d) none
  | .time t => calendarText "time" t.shownFields none
  | .list items => "[" ++ commas (inspectAll items) ++ "]"
  | .tuple items =>
    match inspectAll items with
    | [one] => "(" ++ one ++ ",)"
    | parts => "(" ++ commas parts ++ ")"
  | .set items => if items.isEmpty then "set()" else braced (commas (inspectAll items))
  | .fixedSet items =>
    if items.isEmpty then "frozenset()"
    else "frozenset(" ++ braced (commas (inspectAll items)) ++ ")"
  | .dict entries => braced (commas (inspectEntries entries))
  | .again _ isDict => if isDict then braced "..." else "[...]"
  | .junction j => memberText "BooleanType" j.name (Text.quote j.text)
  | .comparison c => memberText "RelationalType" c.name (Text.quote c.text)
  | .mode m => memberText "RelationMode" m.name (Text.quote m.text)
  | .context c => memberText "OperatorContext" c.name (Text.quote c.text)
  | .member enumeration name v => memberText enumeration.name name (inspect v)
  | .object o => o.shown
  | .literal v => "lit(" ++ inspect v ++ ")"
  | .variable k => "var(" ++ (plain? k).getD (inspect k) ++ ")"
  | .field e n => (plain? e).getD (inspect e) ++ "." ++ (plain? n).getD (inspect n)
  | .expr k ts negated =>
    let kind := match k with
      | .junction j => j.text
      | .comparison c => c.text
      | .mode m => m.text
      | .context c => c.text
      | .member _ _ v => (plain? v).getD (inspect v)
      | v => (plain? v).getD (inspect v)
    (if negated then "NOT " else "") ++ keyForm kind ++ "(" ++ commas (inspectAll ts) ++ ")"

def inspectAll : List Value → List String
  | [] => []
  | v :: vs => inspect v :: inspectAll vs

def inspectEntries : List (Value × Value) → List String
  | [] => []
  | (k, v) :: es => (inspect k ++ ": " ++ inspect v) :: inspectEntries es

end

/-- The plain text of a value. -/
def display (v : Value) : String := v.plain?.getD v.inspect

/-- The key of a node's kind: opened once, displayed, trimmed and in lower case. -/
def kindKey (kind : Value) : String := keyForm kind.opened.display

/-- A kind is that of a group if its key is one of the junctions. -/
def isJunctionKind (kind : Value) : Bool := (Junction.ofText? kind.kindKey).isSome

/-- What a node of the given kind is called: a group is logical, a comparison relational. -/
def sortName (kind : Value) : String := if kind.isJunctionKind then "logical" else "relational"

/-- What a comparison is called in short: the key of its kind, and whether it is negated. -/
def shortName (kind : Value) (negated : Bool) : String :=
  kind.kindKey ++ if negated then " (negated)" else ""

end PostQuery.Value
