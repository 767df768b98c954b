import PostQuery.Calendar

/-!
# The parts of a YAML document

A document is a run of tokens: marks of where documents and collections begin and end, keys, values,
names, tags and scalars. What rules a document out is a fault.
-/

namespace PostQuery.Yaml

/-- Why a document cannot be read. Most faults are not told apart; those of single values are. -/
inductive Fault where
  | malformed
  /-- An escape asks for a number beyond the last character. -/
  | codePoint (n : Nat)
  | noInteger (text : String) (base : Nat)
  | noFloat (text : String)
  | noBoolean (text : String)
  | noTimestamp
  /-- A date is written as a mapping. -/
  | timestampNotText
  /-- A number without a character. -/
  | noCharacter
  | tooManyDigits (bound count : Nat)
  /-- A scalar stands for itself. -/
  | endless
  | calendar (f : CalendarFault)
  /-- The offset from universal time, in minutes, is a day or more. -/
  | offset (minutes : Int)

/-- What a directive says. -/
inductive Directive where
  | version (major minor : Nat)
  | tag (handle leading : String)
  | other

inductive Token where
  | directive (d : Directive)
  | documentStart
  | documentEnd
  | streamEnd
  | blockSequence
  | blockMapping
  | blockEnd
  | flowSequence
  | flowSequenceEnd
  | flowMapping
  | flowMappingEnd
  | flowEntry
  | blockEntry
  | key
  | value
  | alias (name : String)
  | anchor (name : String)
  /-- A tag with its handle; the handle is missing where the tag is given in full. -/
  | tag (handle : Option String) (suffix : String)
  | scalar (text : String) (plain : Bool)
  /-- The document cannot be cut into tokens any further. -/
  | fault (f : Fault)

end PostQuery.Yaml
