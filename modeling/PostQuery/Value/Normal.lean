import PostQuery.Value.Text

/-!
# Normal forms of values

Scalar values have a text: that of a member of an enumeration is the text of its value, at any
depth, true and false are `1` and nothing, and numbers, texts, dates and objects with a text of
their own give their plain text. All else has none: null, bytes, collections, terms and trees.

The scalar put into query arguments keeps texts and numbers as they are and stores dates in their
stored form; a sequence is taken item by item and always comes out as a list. Its cast type is
found from the value as it was written.
-/

namespace PostQuery.Value

/-- The text of a scalar value, or the value that has none. -/
def normalText : Value → Except Value String
  | .member _ _ v => normalText v
  | .junction j => .ok j.text
  | .comparison c => .ok c.text
  | .mode m => .ok m.text
  | .context c => .ok c.text
  | .bool b => .ok (if b then "1" else "")
  | .text s => .ok s
  | .int n => .ok (Number.intText n)
  | .float x => .ok (Number.floatText x)
  | .decimal d => .ok d.text
  | v@(.dateTime ..) => .ok v.display
  | .date d => .ok d.isoText
  | .time t => .ok t.isoText
  | v@(.object o) => o.text.elim (.error v) .ok
  | v => .error v

/-- The scalar put into query arguments, or the value that has none. A member of an enumeration is
opened once before anything else is looked at. -/
def scalar (v : Value) : Except Value Value :=
  match v.opened with
  | .dateTime d t _ => .ok (.text (d.storedText ++ " " ++ t.storedText))
  | .date d => .ok (.text d.storedText)
  | .time t => .ok (.text t.storedText)
  | w@(.text _) | w@(.bool _) | w@(.int _) | w@(.float _) | w@(.decimal _) => .ok w
  | w => w.normalText.map .text

/-- The value is a dictionary or a set. -/
def isCollection : Value → Bool
  | .dict _ | .set _ | .fixedSet _ => true
  | .again _ isDict => isDict
  | _ => false

/-- The value put into query arguments: a list for a sequence, a scalar otherwise. A dictionary or a
set is refused as such, without a look at its text. -/
def normal (v : Value) : Except Value Value :=
  match v.sequence? with
  | some items => (items.mapM scalar).map .list
  | none => if v.isCollection then .error v else v.scalar

/-- The types to which a stored value can be cast for a comparison. -/
inductive CastType where
  | binary
  | numeric
  | decimal
  | dateTime
  | date
  | time
  | char
  deriving DecidableEq

namespace CastType

def text : CastType → String
  | .binary => "BINARY"
  | .numeric => "NUMERIC"
  | .decimal => "DECIMAL"
  | .dateTime => "DATETIME"
  | .date => "DATE"
  | .time => "TIME"
  | .char => "CHAR"

/-- The type that all members of a list share; none at all and differing ones make characters. -/
def common : List CastType → CastType
  | [] => .char
  | t :: ts => if ts.all (· == t) then t else .char

end CastType

mutual

/-- The cast type of a value: that of a sequence is the common one of its items. -/
def castType : Value → CastType
  | .member _ _ v => castType v
  | .list items | .tuple items => .common (castTypes items)
  | .bool _ => .binary
  | .int _ => .numeric
  | .float _ | .decimal _ => .decimal
  | .dateTime .. => .dateTime
  | .date _ => .date
  | .time _ => .time
  | _ => .char

def castTypes : List Value → List CastType
  | [] => []
  | v :: vs => castType v :: castTypes vs

end

end PostQuery.Value
