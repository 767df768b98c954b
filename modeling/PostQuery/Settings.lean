import PostQuery.Value.Items
import PostQuery.Value.Order
import PostQuery.Value.Slots
import PostQuery.Value.Spelled

/-!
# Settings

Four settings shared by all builders: the entity names that mark a field as post meta or as a
taxonomy, the field by which taxonomy terms are looked up unless all are numbers, and whether
operators are spelled out where they would be assumed. A setting may hold any value; what is checked
is that the term field is one of four names, that neither entity name counts as false, and that the
two differ, in this order.
-/

namespace PostQuery

structure Settings where
  metaEntity : Value := .text "meta"
  taxonomyEntity : Value := .text "tax"
  termField : Value := .text "slug"
  explicitDefaults : Value := .bool false
  deriving Inhabited

namespace Settings

/-- Why settings are refused. -/
inductive Fault where
  | unknown (names : List String)
  | termField (v : Value)
  | emptyEntity
  | sameEntity (v : Value)
  | misuse (m : Misuse)

/-- The fields by which a term can be looked up. -/
def termFields : List String := ["term_id", "slug", "name", "term_taxonomy_id"]

/-- The names of the four settings. -/
def names : List String := ["meta_entity", "tax_entity", "default_tax_field", "explicit_defaults"]

namespace Fault

/-- What is reported. -/
def message : Fault → String
  | .unknown names => "Unknown config keys: " ++ Value.commas names
  | .termField v =>
    "Invalid default_tax_field '" ++ v.display ++ "', expected one of: " ++ Value.commas termFields
  | .emptyEntity => "Entity names must not be empty"
  | .sameEntity v => "meta_entity and tax_entity are both '" ++ v.display ++ "'"
  | .misuse m => m.message

end Fault

/-- The settings as the dictionary of their names. -/
def toDict (s : Settings) : Dict :=
  [(.text "meta_entity", s.metaEntity), (.text "tax_entity", s.taxonomyEntity),
   (.text "default_tax_field", s.termField), (.text "explicit_defaults", s.explicitDefaults)]

/-- The settings as handed out: terms and trees in them are spelled out. -/
def plainDict (s : Settings) : Except Misuse Dict := Value.spelledOutEntries s.toDict

/-- The settings written out with their names. -/
def inspect (s : Settings) : String :=
  "BuilderConfig(meta_entity=" ++ s.metaEntity.inspect
    ++ ", tax_entity=" ++ s.taxonomyEntity.inspect
    ++ ", default_tax_field=" ++ s.termField.inspect
    ++ ", explicit_defaults=" ++ s.explicitDefaults.inspect ++ ")"

/-- The four values of the settings in their order. -/
def toList (s : Settings) : List Value :=
  [s.metaEntity, s.taxonomyEntity, s.termField, s.explicitDefaults]

/-- Two settings are equal, one by one; the first ones that differ decide. -/
def equal (s t : Settings) : Except Misuse Bool := Value.equalAll s.toList t.toList

/-- Operators are spelled out where they would be assumed. -/
def spellsDefaults (s : Settings) : Bool := s.explicitDefaults.truthy

/-- The settings, if they pass the checks. -/
def checked (s : Settings) : Except Fault Settings :=
  if !(termFields.any fun name => s.termField.eqv (.text name)) then .error (.termField s.termField)
  else if !s.metaEntity.truthy || !s.taxonomyEntity.truthy then .error .emptyEntity
  else match s.metaEntity.equal s.taxonomyEntity with
    | .error m => .error (.misuse m)
    | .ok true => .error (.sameEntity s.metaEntity)
    | .ok false => .ok s

/-- The keys of a dictionary that name no setting, in the order in which a set gives them. -/
def unknownKeys (d : Dict) : List Value :=
  let isUnknown (k : Value) : Bool := !(names.any fun name => k.eqv (.text name))
  Value.inSlotsOneByOne (Value.inSlots d.length ((d.map Prod.fst).filter isUnknown))

/-- The text of a value that is one. -/
def text? : Value → Option String
  | .text s => some s
  | _ => none

/-- Names joined to a list; each has to be a text. -/
def listed : List Value → Except Misuse (List String)
  | [] => .ok []
  | .text s :: vs => (listed vs).map (s :: ·)
  | v :: _ => .error (.nameNotText v)

/-- The report on unknown keys: their names in order, if they can be put in order and are texts. -/
def unknownFault (keys : List Value) : Fault :=
  match Value.sorted keys >>= listed with
  | .ok names => .unknown names
  | .error m => .misuse m

/-- The settings that a dictionary names, on top of the defaults. -/
def ofDict (d : Dict) : Except Fault Settings :=
  match unknownKeys d with
  | [] =>
    let given (name : String) (fallback : Value) := (d.get? (.text name)).getD fallback
    checked {
      metaEntity := given "meta_entity" (.text "meta")
      taxonomyEntity := given "tax_entity" (.text "tax")
      termField := given "default_tax_field" (.text "slug")
      explicitDefaults := given "explicit_defaults" (.bool false) }
  | keys => .error (unknownFault keys)

/-- The settings that any value names, read as a dictionary. -/
def ofValue (v : Value) : Except Fault Settings :=
  match v.toDict with
  | .ok d => ofDict d
  | .error m => .error (.misuse m)

/-- Settings overridden by those that a dictionary names. -/
def override (s : Settings) (d : Dict) : Except Fault Settings :=
  match s.plainDict with
  | .ok plain => ofDict (plain.update d)
  | .error m => .error (.misuse m)

end Settings

end PostQuery
