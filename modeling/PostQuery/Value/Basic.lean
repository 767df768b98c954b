import PostQuery.Kind
import PostQuery.Calendar
import PostQuery.Number.Decimal

/-!
# Values

Everything that a condition can hold, a tree can be made of, or an argument can carry. Values are
dynamic: where a tree expects a term or a type it may find any value, and the library answers for
each of them. Terms and trees are values themselves, so that a raw value in their place needs no
wrapping.

A dictionary is the list of its entries in order of insertion; `Value/Dict` has its operations.

Lists, dictionaries, sets and numbers are those of the built-in classes, and a member of an
enumeration is that and nothing else. A value of a class that is derived from one of these, such as a
dictionary with a text of its own or a member that is a number as well, is not among the values, and
neither is a complex number.
-/

namespace PostQuery

/-- An enumeration that is not one of the library's own. Two with one name are told apart by their
marks. -/
structure Enumeration where
  name : String
  mark : Nat
  deriving DecidableEq, Inhabited

/-- An object of a class that the library knows nothing about but its texts. Two objects are told
apart by their marks. An object whose texts cannot be taken is not among the values. -/
structure Object where
  className : String
  mark : Nat
  /-- The plain text, if the class has one of its own. -/
  text : Option String
  /-- The unambiguous text. -/
  shown : String
  deriving DecidableEq, Inhabited

inductive Value where
  | null
  | bool (b : Bool)
  | int (n : Int)
  | float (x : Number.Binary64)
  | decimal (d : Number.Decimal)
  | text (s : String)
  | bytes (octets : List UInt8)
  /-- Bytes that can be changed in place. -/
  | buffer (octets : List UInt8)
  /-- A date with a time of day; where the offset is missing the two are local. -/
  | dateTime (d : Date) (t : Clock) (offset : Option Offset)
  | date (d : Date)
  | time (t : Clock)
  | list (items : List Value)
  | tuple (items : List Value)
  | set (items : List Value)
  /-- A set that cannot be changed. -/
  | fixedSet (items : List Value)
  | dict (entries : List (Value × Value))
  /-- A list or a dictionary once more, inside itself; the mark tells which one. -/
  | again (mark : Nat) (isDict : Bool)
  | junction (j : Junction)
  | comparison (c : Comparison)
  | mode (m : Mode)
  | context (c : Context)
  /-- A member of an enumeration that is not one of the library's own. -/
  | member (enumeration : Enumeration) (name : String) (value : Value)
  | object (o : Object)
  /-- The term that stands for a value. -/
  | literal (value : Value)
  /-- The term that stands for a query variable. -/
  | variable (key : Value)
  /-- The term that stands for a field of an entity. -/
  | field (entity name : Value)
  /-- A node of a tree: a junction of nodes or a comparison of terms, possibly negated. -/
  | expr (kind : Value) (terms : List Value) (negated : Bool)
  deriving Inhabited

/-- The entries of a dictionary in order of insertion. -/
abbrev Dict := List (Value × Value)

namespace Value

/-- The name of a value's type. -/
def typeName : Value → String
  | .null => "NoneType"
  | .bool _ => "bool"
  | .int _ => "int"
  | .float _ => "float"
  | .decimal _ => "Decimal"
  | .text _ => "str"
  | .bytes _ => "bytes"
  | .buffer _ => "bytearray"
  | .dateTime .. => "datetime"
  | .date _ => "date"
  | .time _ => "time"
  | .list _ => "list"
  | .tuple _ => "tuple"
  | .set _ => "set"
  | .fixedSet _ => "frozenset"
  | .dict _ => "dict"
  | .again _ isDict => if isDict then "dict" else "list"
  | .junction _ => "BooleanType"
  | .comparison _ => "RelationalType"
  | .mode _ => "RelationMode"
  | .context _ => "OperatorContext"
  | .member enumeration _ _ => enumeration.name
  | .object o => o.className
  | .literal _ => "LiteralTerm"
  | .variable _ => "VariableTerm"
  | .field .. => "EntityFieldTerm"
  | .expr .. => "Expression"

/-- The name of a value's type as it appears in reports of misuse: dates, times and decimals carry
the name of the collection they come from. -/
def fullTypeName (v : Value) : String :=
  match v with
  | .decimal _ => "decimal." ++ v.typeName
  | .dateTime .. | .date _ | .time _ => "datetime." ++ v.typeName
  | _ => v.typeName

/-- The value of a member of an enumeration; any other value itself. Only one level is opened. -/
def opened : Value → Value
  | .junction j => .text j.text
  | .comparison c => .text c.text
  | .mode m => .text m.text
  | .context c => .text c.text
  | .member _ _ v => v
  | v => v

/-- The items of a list or a tuple, the two kinds of sequence. -/
def sequence? : Value → Option (List Value)
  | .list items | .tuple items => some items
  | _ => none

/-- The value is a list or a tuple. -/
def isSequence (v : Value) : Bool := v.sequence?.isSome

/-- A sequence's items; any other value as the only item. -/
def asList (v : Value) : List Value := v.sequence?.getD [v]

/-- The literal term for a value; a list becomes a tuple, so that the term cannot change. -/
def ofLiteral : Value → Value
  | .list items => .literal (.tuple items)
  | v => .literal v

/-- The value counts as true: it is not null, false, a zero, or empty. -/
def truthy : Value → Bool
  | .null => false
  | .bool b => b
  | .int n => n != 0
  | .float x => x.nonzero
  | .decimal d => d.nonzero
  | .text s => s != ""
  | .bytes octets | .buffer octets => !octets.isEmpty
  | .list items | .tuple items | .set items | .fixedSet items => !items.isEmpty
  | .dict entries => !entries.isEmpty
  | _ => true

/-- The first of two findings; the second is looked for only where there is no first. -/
def firstSome (o : Option Value) (p : Unit → Option Value) : Option Value :=
  match o with
  | some v => some v
  | none => p ()

mutual

/-- The first part of a value that keeps it from being a key: lists, sets, dictionaries and buffers
can change, and a decimal may signal. -/
def keyFault? : Value → Option Value
  | v@(.list _) | v@(.set _) | v@(.dict _) | v@(.buffer _) | v@(.again ..) => some v
  | v@(.decimal (.nan _ true _)) => some v
  | .tuple items | .fixedSet items => keyFaults? items
  | .literal v => keyFault? v
  | .variable k => keyFault? k
  | .field e n => firstSome (keyFault? e) fun _ => keyFault? n
  | .expr k ts _ => firstSome (keyFault? k) fun _ => keyFaults? ts
  | _ => none

def keyFaults? : List Value → Option Value
  | [] => none
  | v :: vs => firstSome (keyFault? v) fun _ => keyFaults? vs

end

end Value

end PostQuery
