import PostQuery.Value.Text

/-!
# Values used as what they are not

The reports for values of the wrong kind: a key that can change, entries that are no pairs, names
that are no texts, values that cannot be compared, values put in place of a part that is asked to do
something. None of these is a refusal: they end whatever was being done.
-/

namespace PostQuery

/-- The broad kinds of report, for a caller that tells them apart. -/
inductive MisuseKind where
  | type
  | value
  | key
  | attribute
  | index
  | overflow
  | arithmetic
  | recursion
  | decoding
  deriving DecidableEq

inductive Misuse where
  /-- The value cannot be a key. -/
  | notKey (v : Value)
  /-- The value has no items to go through. -/
  | notIterable (v : Value)
  /-- The entry of a would-be dictionary is no sequence. -/
  | entryNotSequence (index : Nat)
  /-- The entry of a would-be dictionary is a sequence, but no pair. -/
  | entryLength (index length : Nat)
  /-- Names that are to be listed are no texts. -/
  | nameNotText (v : Value)
  /-- The name of a part is no text. -/
  | partNotText
  /-- The same part is named twice. -/
  | partTwice (taker part : String)
  /-- Two values cannot be put in order. -/
  | unordered (v w : Value)
  /-- A date with a time of day cannot be put in order with one that has none. -/
  | datesDiffer
  /-- A local time cannot be put in order with one that has an offset. -/
  | offsetsDiffer
  /-- A signaling decimal was compared with a number, or what is no number put in order with one. -/
  | signal
  /-- A value that holds itself was gone through to its end. -/
  | endless (comparing : Bool)
  /-- The key of a filter is no text, so that it has no first character. -/
  | keyNotText (v : Value)
  /-- The value has no part of the given name. -/
  | noPart (v : Value) (part : String)
  /-- The value was to reword a message. -/
  | noCatalog (v : Value)
  /-- The value was to find the normal text of a kind. -/
  | noNormalizer (v kind : Value)
  /-- No leaf builder is known for the mode. -/
  | noLeafBuilder (m : Mode)
  /-- The value selects no mode. -/
  | unknownMode (v : Value)

namespace Misuse

/-- A decimal in place of the normalizer takes a kind for a context; the kind that is nothing it
takes for none, and so it fails only later. -/
def normalizerKind (v kind : Value) : MisuseKind :=
  match v, kind with
  | .decimal d, .null => if d.isSignaling then .arithmetic else .attribute
  | .decimal _, _ => .type
  | _, _ => .attribute

/-- The kind of report. -/
def kind : Misuse → MisuseKind
  | .notKey _ | .notIterable _ | .entryNotSequence _ | .nameNotText _ | .partNotText
  | .partTwice .. | .unordered .. | .datesDiffer | .offsetsDiffer => .type
  | .noCatalog (.text _) | .noCatalog (.bytes _) | .noCatalog (.buffer _) => .type
  | .keyNotText (.bytes _) => .type
  | .keyNotText _ | .noPart .. | .noCatalog _ => .attribute
  | .noNormalizer v kind => normalizerKind v kind
  | .entryLength .. | .unknownMode _ => .value
  | .noLeafBuilder _ => .key
  | .signal => .arithmetic
  | .endless _ => .recursion

/-- The value has no part of the given name. -/
def noPartText (v : Value) (part : String) : String :=
  "'" ++ v.fullTypeName ++ "' object has no attribute '" ++ part ++ "'"

/-- What is reported of an invalid operation on decimals. -/
def signalText : String := "[<class 'decimal.InvalidOperation'>]"

/-- What is reported of a value in place of the normalizer. -/
def normalizerText (v kind : Value) : String :=
  match v, kind with
  | .decimal d, .null => if d.isSignaling then signalText else noPartText v "strip"
  | .decimal _, _ => "optional argument must be a context"
  | _, _ => noPartText v "normalize"

/-- What is reported. -/
def message : Misuse → String
  | .notKey (.decimal _) => "Cannot hash a signaling NaN value"
  | .notKey v => "unhashable type: '" ++ v.fullTypeName ++ "'"
  | .notIterable v => "'" ++ v.fullTypeName ++ "' object is not iterable"
  | .entryNotSequence index =>
    "cannot convert dictionary update sequence element #" ++ unpadded index ++ " to a sequence"
  | .entryLength index length =>
    "dictionary update sequence element #" ++ unpadded index ++ " has length " ++ unpadded length
      ++ "; 2 is required"
  | .nameNotText v => "sequence item 0: expected str instance, " ++ v.fullTypeName ++ " found"
  | .partNotText => "keywords must be strings"
  | .partTwice taker part => taker ++ " got multiple values for argument '" ++ part ++ "'"
  | .unordered v w =>
    "'<' not supported between instances of '" ++ v.fullTypeName ++ "' and '" ++ w.fullTypeName
      ++ "'"
  | .datesDiffer => "can't compare datetime.datetime to datetime.date"
  | .offsetsDiffer => "can't compare offset-naive and offset-aware datetimes"
  | .signal => signalText
  | .endless comparing =>
    "maximum recursion depth exceeded" ++ if comparing then " in comparison" else ""
  | .keyNotText (.bytes _) => "startswith first arg must be bytes or a tuple of bytes, not str"
  | .keyNotText v => noPartText v "startswith"
  | .noPart v part => noPartText v part
  | .noCatalog (.text _) => "str.translate() takes exactly one argument (2 given)"
  | .noCatalog (.bytes _) | .noCatalog (.buffer _) => "a bytes-like object is required, not 'str'"
  | .noCatalog v => noPartText v "translate"
  | .noNormalizer v kind => normalizerText v kind
  | .noLeafBuilder m => (Value.mode m).inspect
  | .unknownMode v => "Unknown relation mode: " ++ v.display

end Misuse

end PostQuery
