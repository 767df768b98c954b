import PostQuery.Builder

/-!
# Clauses of single comparisons

A comparison becomes an entry of the arguments, a post meta clause or a taxonomy clause. Its
operands are told apart by what they are and not by where they stand: one field of the right sort
and one literal, in either order. An operator is left out where it would be assumed, unless the
settings ask for it.
-/

namespace PostQuery

/-- The shapes that a comparison can take. -/
inductive Shape where
  | compare
  | postMeta
  | taxonomy
  deriving DecidableEq, Inhabited

namespace Shape

/-- The context in which a shape's operators are looked up. -/
def context : Shape → Context
  | .compare => .compare
  | .postMeta => .postMeta
  | .taxonomy => .taxonomy

/-- What is said of a comparison that does not take the shape. -/
def complaint : Shape → Complaint
  | .compare => .compare
  | .postMeta => .metaCompare
  | .taxonomy => .taxonomyCompare

end Shape

/-- A step that can only be misused, in an attempt. -/
def unbroken {α : Type} (e : Except Misuse α) : Attempt α := e.mapError .broken

/-- A step that can only refuse, in an attempt. -/
def orRefused {α : Type} (e : Except Failure α) : Attempt α := e.mapError .refused

/-- The key of a variable term. -/
def variableKey? : Value → Attempt (Option Value)
  | .variable key => .ok (some key)
  | _ => .ok none

/-- The name of a term that is a field of an entity of the settings. -/
def fieldName? (b : Builder) (setting : String) (entity : Settings → Value) :
    Value → Attempt (Option Value)
  | .field e name => unbroken do
    let s ← b.settingsFor setting
    if ← e.equal (entity s) then pure (some name) else pure none
  | _ => .ok none

/-- Goes through terms with the field and the literal found so far. A term is taken for the field
first, then for the literal, and has to be one of them. -/
def scanOperands (field? : Value → Attempt (Option Value)) :
    List Value → Option Value → Option Value → Attempt (Option Value × Option Value)
  | [], field, literal => .ok (field, literal)
  | term :: rest, field, literal => do
    match ← if field.isSome then pure none else field? term with
    | some name => scanOperands field? rest (some name) literal
    | none =>
      match literal, term with
      | none, .literal v => scanOperands field? rest field (some v)
      | _, _ => throw (.refused (.operands (.unexpected term)))

/-- The field and the literal among terms; the literal may be missing where it is optional. -/
def operands (field? : Value → Attempt (Option Value)) (terms : List Value)
    (literalOptional : Bool) : Attempt (Value × Option Value) := do
  match ← scanOperands field? terms none none with
  | (none, _) => throw (.refused (.operands .noField))
  | (some name, literal) =>
    if literal.isNone && !literalOptional then throw (.refused (.operands .noValue))
    pure (name, literal)

/-- The value put into query arguments, or its refusal. -/
def normalValue (v : Value) : Except Failure Value :=
  match v.normal with
  | .ok w => .ok w
  | .error w => .error (.value w)

/-- The value of a post meta clause, in the shape that its operator takes. -/
def metaValue (token : Token) (value : Value) : Except Failure Value :=
  if token.takesList then .ok (.list value.asList)
  else if token.takesRange then
    match value.sequence? with
    | some [_, _] => .ok value
    | _ => .error (.operands (.notPair token))
  else if value.isSequence && !token.asksPresence then .error (.operands (.notSingle token))
  else .ok value

/-- The field by which terms are looked up: by number if all are numbers and there are any. -/
def termField (s : Settings) (terms : List Value) : Value :=
  let isId : Value → Bool
    | .int _ => true
    | _ => false
  if !terms.isEmpty && terms.all isId then .text "term_id" else s.termField

/-- The field by which terms are looked up, for terms given as any value; one that counts as false
holds none. -/
def termFieldOf (s : Settings) (terms : Value) : Except Misuse Value :=
  if terms.truthy then terms.items.map (termField s) else .ok s.termField

namespace Builder

/-- An entry for the operator, unless it goes without saying. -/
def operatorEntry (b : Builder) (ctx : Context) (name : String) (token : Token) :
    Attempt Dict := do
  if ← b.spells ctx token then pure [(.text name, .text token.text)] else pure []

/-- The key, the value and the operator of a comparison of a variable. -/
def compareParts (b : Builder) (kind : Value) (terms : List Value) (negated : Bool) :
    Attempt (Value × Value × Token) := do
  let token ← b.resolve .compare kind negated
  let (key, literal) ← operands variableKey? terms false
  let value ← orRefused (normalValue (literal.getD .null))
  pure (key, if token.takesList then .list value.asList else value, token)

/-- The entries of a plain comparison: the variable's key with the value, then the operator under a
key of its own. The key must do as one. -/
def compareEntries (b : Builder) (key value : Value) (token : Token) : Attempt Dict := do
  let key ← unbroken key.asKey
  let operator ← b.operatorEntry .compare "compare" token
  pure (Dict.update [(key, value)] operator)

/-- A post meta clause: key, value and its cast type, operator. -/
def metaClause (b : Builder) (kind : Value) (terms : List Value) (negated : Bool) :
    Attempt Dict := do
  let token ← b.resolve .postMeta kind negated
  let isField := fieldName? b "meta_entity" Settings.metaEntity
  let (name, literal) ← operands isField terms token.asksPresence
  let valueEntries ← match literal with
    | none => pure []
    | some raw => do
      let value ← orRefused (normalValue raw)
      let value ← orRefused (metaValue token value)
      pure [(Value.text "value", value), (.text "type", .text raw.castType.text)]
  let operator ← b.operatorEntry .postMeta "compare" token
  pure ((.text "key", name) :: valueEntries ++ operator)

/-- A taxonomy clause: taxonomy, term field and terms, operator. -/
def taxonomyClause (b : Builder) (kind : Value) (terms : List Value) (negated : Bool) :
    Attempt Dict := do
  let token ← b.resolve .taxonomy kind negated
  let isField := fieldName? b "tax_entity" Settings.taxonomyEntity
  let (name, literal) ← operands isField terms token.asksPresence
  let termEntries ← match literal with
    | none => pure []
    | some raw => do
      let value ← orRefused (normalValue raw)
      let items := value.asList
      if items.isEmpty && !token.asksPresence then throw (.refused (.operands (.noTerms token)))
      pure [(Value.text "field", termField b.settings items), (.text "terms", .list items)]
  let operator ← b.operatorEntry .taxonomy "operator" token
  pure ((.text "taxonomy", name) :: termEntries ++ operator)

/-- The entries that a comparison makes in the given shape. -/
def clause (b : Builder) (shape : Shape) (x : Value) : Attempt Dict :=
  match x with
  | .expr kind terms negated =>
    if kind.isJunctionKind then b.refuse .notRelational x
    else match shape with
      | .compare => do
        let (key, value, token) ← b.within .compare x (b.compareParts kind terms negated)
        b.compareEntries key value token
      | .postMeta => b.within .metaCompare x (b.metaClause kind terms negated)
      | .taxonomy => b.within .taxonomyCompare x (b.taxonomyClause kind terms negated)
  | _ => b.refuse .notRelational x

end Builder

end PostQuery
