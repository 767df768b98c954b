import PostQuery.Operator
import PostQuery.Settings

/-!
# Builders

What all building of arguments shares: the settings, the operators of each context, the normal texts
of values and the catalog that words refusals. A builder can be made from named parts, and a part
may be given as any value at all. One that counts as false leaves the part as it is. Any other one
takes the part's place, and is reported as soon as something is asked of it that only the part can
do.
-/

namespace PostQuery

/-- What stops the building of arguments: a refusal, after which something else may be tried, or a
misuse, which ends everything. -/
inductive Obstacle where
  | refused (f : Failure)
  | broken (m : Misuse)

/-- An attempt to build something. -/
abbrev Attempt (α : Type) := Except Obstacle α

/-- Values that have taken the places of a builder's parts. -/
structure StandIns where
  settings : Option Value := none
  operators : Option Value := none
  normalizer : Option Value := none
  catalog : Option Value := none

/-- What all builders share. -/
structure Builder where
  settings : Settings := {}
  catalog : Catalog := {}
  standIns : StandIns := {}

namespace Builder

/-- The settings, of which the named one is asked for. -/
def settingsFor (b : Builder) (name : String) : Except Misuse Settings :=
  match b.standIns.settings with
  | none => .ok b.settings
  | some v => .error (.noPart v name)

/-- The settings as handed out. -/
def plainSettings (b : Builder) : Except Misuse Dict := do
  let s ← b.settingsFor "to_dict"
  s.plainDict

/-- Refuses a subject, in the words of the catalog. -/
def refuseWith {α : Type} (b : Builder) (c : Complaint) (subject : Value) (cause : Option Failure)
    (causes : List Failure) : Attempt α :=
  match b.standIns.catalog with
  | none => .error (.refused (.unsupported (b.catalog.reword c.text) subject cause causes))
  | some v => .error (.broken (.noCatalog v))

/-- Refuses a subject for no further cause. -/
def refuse {α : Type} (b : Builder) (c : Complaint) (subject : Value) : Attempt α :=
  b.refuseWith c subject none []

/-- Refuses a subject because of another refusal. -/
def refuseFor {α : Type} (b : Builder) (c : Complaint) (subject : Value) (f : Failure) :
    Attempt α :=
  b.refuseWith c subject (some f) []

/-- Takes a refusal of something inside a subject for a refusal of the subject. -/
def within {α : Type} (b : Builder) (c : Complaint) (subject : Value) : Attempt α → Attempt α
  | .ok a => .ok a
  | .error (.refused f) => b.refuseFor c subject f
  | .error (.broken m) => .error (.broken m)

/-- What the lookup of an operator is called in each context. -/
def lookupName : Context → String
  | .compare => "compare_operator"
  | .postMeta => "meta_compare_operator"
  | .taxonomy => "tax_compare_operator"
  | .relation => "relation_operator"

/-- The operator that a context has for a kind. -/
def resolve (b : Builder) (ctx : Context) (kind : Value) (negated : Bool) : Attempt Token :=
  match b.standIns.operators, b.standIns.normalizer with
  | some v, _ => .error (.broken (.noPart v (lookupName ctx)))
  | none, some v => .error (.broken (.noNormalizer v kind))
  | none, none => (ctx.resolve kind negated).mapError .refused

/-- The operator is written out. -/
def spells (b : Builder) (ctx : Context) (token : Token) : Attempt Bool :=
  match b.settingsFor "explicit_defaults" with
  | .ok s => .ok (s.spellsDefaults || !ctx.isDefault token.text)
  | .error m => .error (.broken m)

/-! ## Builders from named parts -/

/-- The names of the parts that are no settings. -/
def partNames : List String := ["config", "resolver", "normalizer", "translator"]

/-- The value that takes the place of a part, if one is given that does not count as false. -/
def standIn? (parts : Dict) (name : String) : Option Value :=
  (parts.get? (.text name)).filter Value.truthy

/-- The named parts that are settings. -/
def settingParts (parts : Dict) : Dict :=
  parts.filter fun e => !(partNames.any fun name => e.1.eqv (.text name))

/-- The settings that named parts make: the given ones, or those that the parts name on top of what
is given. A value that takes the place of the settings cannot be added to. -/
def settingsOf (b : Builder) (parts : Dict) : Except Settings.Fault Settings :=
  let given := if (parts.get? (.text "config")).isSome then {} else b.settings
  if (settingParts parts).isEmpty then .ok given
  else match standIn? parts "config" with
    | some v => .error (.misuse (.noPart v "to_dict"))
    | none => given.override (settingParts parts)

/-- The names of parts are texts. -/
def checkNames (parts : Dict) : Except Settings.Fault Unit :=
  if parts.any fun e => (Settings.text? e.1).isNone then .error (.misuse .partNotText) else .ok ()

/-- A builder with named parts in the places of its own: the parts that are no settings by their
names, and settings by theirs. -/
def withParts (b : Builder) (parts : Dict) : Except Settings.Fault Builder := do
  checkNames parts
  if (parts.get? (.text "self")).isSome then
    throw (.misuse (.partTwice "WpQueryArgsBuilder.__init__()" "self"))
  let settings ← b.settingsOf parts
  pure {
    settings
    catalog := if (parts.get? (.text "translator")).isSome then {} else b.catalog
    standIns := {
      settings := if (settingParts parts).isEmpty then standIn? parts "config" else none
      operators := standIn? parts "resolver"
      normalizer := standIn? parts "normalizer"
      catalog := standIn? parts "translator" } }

/-- A builder made from nothing but named parts, along with a tree, which is none of them. -/
def ofParts (parts : Dict) : Except Settings.Fault Builder := do
  checkNames parts
  if (parts.get? (.text "expression")).isSome then
    throw (.misuse (.partTwice "build_args()" "expression"))
  ({} : Builder).withParts parts

end Builder

end PostQuery
