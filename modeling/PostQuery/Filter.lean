import PostQuery.Settings

/-!
# Filters

A filter is a dictionary of conditions, read into a tree. Its keys are fields, with a value or a
dictionary of operators, or one of `$and`, `$or` and `$not`. The root of the tree is always a
conjunction; below it, a dictionary with one condition is that condition, and one with several is a
conjunction of its own.

Nesting is limited. The reader counts the level it is on: one for every dictionary read as a filter
and one for every `$not` inside a field. A level that goes beyond the limit is refused, and the
count it had reached stays behind, since only a level that was entered is left again; every reading
of a filter that is not empty starts over from zero.
-/

namespace PostQuery

namespace Filter

/-- Why a filter is refused. -/
inductive Fault where
  | notDict (v : Value)
  | tooDeep (limit : Int)
  /-- The operator is followed by something that is no dictionary. -/
  | needsDict (operator : String) (v : Value)
  /-- The operator is followed by something that is no list. -/
  | needsList (operator : String) (v : Value)
  /-- The list after the operator has an item that is no dictionary. -/
  | itemNotDict (operator : String) (v : Value)
  /-- The operator stands where a field is expected. -/
  | needsField (operator : String)
  | unknownOperator (key : Value)
  | misuse (m : Misuse)

namespace Fault

/-- What is reported. -/
def message : Fault → String
  | .notDict _ => "Filters must be a dictionary"
  | .tooDeep limit => "Filter nesting exceeds maximum depth of " ++ Number.intText limit
  | .needsDict operator _ => operator ++ " requires a dictionary"
  | .needsList operator _ => operator ++ " requires a list"
  | .itemNotDict operator _ => operator ++ " items must be dictionaries"
  | .needsField operator => "Operator " ++ operator ++ " requires a field"
  | .unknownOperator key => "Unknown operator: " ++ key.display
  | .misuse m => m.message

/-- The value that the report is about. -/
def subject : Fault → Value
  | .notDict v | .needsDict _ v | .needsList _ v | .itemNotDict _ v => v
  | _ => .null

end Fault

/-- The operators of a field. -/
def comparisons : List (String × Comparison) :=
  [("$eq", .equal), ("$ne", .notEqual), ("$gt", .greater), ("$gte", .greaterEqual), ("$lt", .less),
   ("$lte", .lessEqual), ("$in", .among), ("$nin", .notAmong), ("$like", .like),
   ("$between", .between), ("$exists", .present), ("$regex", .pattern), ("$all", .every)]

/-- The comparison that an operator stands for. -/
def comparison? (operator : String) : Option Comparison :=
  (comparisons.find? fun e => e.1 == operator).map Prod.snd

/-- The junction that an operator stands for. -/
def junction? (operator : String) : Option Junction :=
  if operator == "$and" then some .and else if operator == "$or" then some .or else none

/-- The operator of negation, before a filter and within a field. -/
def negation : String := "$not"

/-- A key is an operator if it starts with a dollar sign. -/
def isOperator (key : String) : Bool := key.toList.head? == some '$'

/-- Some key is an operator. The keys before it have to be texts. -/
def hasOperator : Dict → Except Misuse Bool
  | [] => .ok false
  | (.text key, _) :: rest => if isOperator key then .ok true else hasOperator rest
  | (key, _) :: _ => .error (.keyNotText key)

/-- The field term of a key: a field of the entity before the first dot, if there is such an entity
and a name after the dot, and a variable otherwise. -/
def fieldTerm (s : Settings) (key : String) : Value :=
  let cs := key.toList
  let entity := Value.text (String.ofList (cs.takeWhile (· != '.')))
  match cs.dropWhile (· != '.') with
  | _ :: name@(_ :: _) =>
    if entity.eqv s.metaEntity || entity.eqv s.taxonomyEntity then
      .field entity (.text (String.ofList name))
    else .variable (.text key)
  | _ => .variable (.text key)

/-- The opposite of a tree. Groups with a single term cannot be negated in query arguments, so the
negation goes down to the first node that is no such group. -/
def negate : Value → Value
  | .expr kind [.expr k ts n] negated =>
    if kind.isJunctionKind then .expr kind [negate (.expr k ts n)] negated
    else .expr kind [.expr k ts n] (!negated)
  | .expr kind terms negated => .expr kind terms (!negated)
  | v => v

/-- The condition that a field compares with a value in some way. Presence takes no value: one that
counts as false asks for absence. -/
def condition (field : Value) (c : Comparison) (operand : Value) (negated : Bool) : Value :=
  match c with
  | .present =>
    .expr (.comparison c) [field] (if operand.truthy then negated else !negated)
  | _ => .expr (.comparison c) [field, .literal operand] negated

/-- One condition is itself; any other number of them is a conjunction. -/
def grouped : List Value → Value
  | [x] => x
  | xs => .expr (.junction .and) xs false

/-- What the reader goes by. -/
structure Rules where
  limit : Int
  settings : Settings

/-- A step of reading, which counts the levels it is on. -/
abbrev Reading (α : Type) := ExceptT Fault (StateM Nat) α

/-- Goes one level down for a step and up again after it, unless the level is beyond the limit. -/
def deeper {α : Type} (limit : Int) (step : Reading α) : Reading α :=
  ExceptT.mk fun level =>
    if limit < (level + 1 : Nat) then (.error (.tooDeep limit), level + 1)
    else
      let (result, level) := step.run (level + 1)
      (result, level - 1)

mutual

/-- The conditions of the entries of a filter, in order. -/
def readEntries (rules : Rules) : List (Value × Value) → Reading (List Value)
  | [] => pure []
  | (key, value) :: rest => do
    let conditions ← match key with
      | .text name => readEntry rules name value
      | key => throw (.misuse (.keyNotText key))
    let more ← readEntries rules rest
    pure (conditions ++ more)

/-- The conditions of one entry of a filter. -/
def readEntry (rules : Rules) (name : String) (value : Value) : Reading (List Value) :=
  match junction? name with
  | some j =>
    match value with
    | .list items => do
      let parts ← readItems rules name items
      pure [.expr (.junction j) parts false]
    | v => throw (.needsList name v)
  | none =>
    if name == negation then
      match value with
      | .dict entries => do
        let conditions ← deeper rules.limit (readEntries rules entries)
        pure [negate (grouped conditions)]
      | v => throw (.needsDict name v)
    else if isOperator name then
      throw (if (comparison? name).isSome then .needsField name else .unknownOperator (.text name))
    else readField rules (fieldTerm rules.settings name) value false

/-- The trees of the items of a list, each of which is a filter. -/
def readItems (rules : Rules) (operator : String) : List Value → Reading (List Value)
  | [] => pure []
  | item :: rest => do
    let part ← match item with
      | .dict entries => do
        let conditions ← deeper rules.limit (readEntries rules entries)
        pure (grouped conditions)
      | v => throw (.itemNotDict operator v)
    let parts ← readItems rules operator rest
    pure (part :: parts)

/-- The conditions of a field: those of its operators, or equality with a value. -/
def readField (rules : Rules) (field : Value) (value : Value) (negated : Bool) :
    Reading (List Value) :=
  match value with
  | .dict entries =>
    match hasOperator entries with
    | .error m => throw (.misuse m)
    | .ok true => readOperators rules field entries negated
    | .ok false => pure [condition field .equal (.dict entries) negated]
  | v => pure [condition field .equal v negated]

/-- The conditions of the operators of a field, in order. -/
def readOperators (rules : Rules) (field : Value) :
    List (Value × Value) → Bool → Reading (List Value)
  | [], _ => pure []
  | (key, value) :: rest, negated => do
    let conditions ← match key with
      | .text name =>
        if name == negation then
          match value with
          | .dict entries =>
            deeper rules.limit (readField rules field (.dict entries) (!negated))
          | v => throw (.needsDict name v)
        else
          match comparison? name with
          | some c => pure [condition field c value negated]
          | none => throw (.unknownOperator key)
      | key => throw (.unknownOperator key)
    let more ← readOperators rules field rest negated
    pure (conditions ++ more)

end

/-- The tree of a filter that is a dictionary, with the level that is left at the end. -/
def readDict (rules : Rules) (entries : Dict) : Except Fault Value × Nat :=
  (do
    let conditions ← deeper rules.limit (readEntries rules entries)
    pure (.expr (.junction .and) conditions false) : Reading Value).run 0

end Filter

/-- A reader of filters, with the level it was left on. -/
structure Reader where
  limit : Int := 10
  settings : Settings := {}
  level : Nat := 0

namespace Reader

/-- The tree of a filter and the reader afterwards. A filter that counts as false is the empty
conjunction. -/
def read (r : Reader) (filters : Value) : Except Filter.Fault Value × Reader :=
  if !filters.truthy then (.ok (.expr (.junction .and) [] false), r)
  else match filters with
    | .dict entries =>
      let (result, level) := Filter.readDict ⟨r.limit, r.settings⟩ entries
      (result, { r with level })
    | v => (.error (.notDict v), r)

end Reader

end PostQuery
