import PostQuery.Settings
import PostQuery.Text.Blank
import PostQuery.Text.Lower

/-!
# Settings from the environment

Three variables replace a setting unless they are empty. The fourth one tells whether operators are
spelled out; if it is there at all it decides, and any text but four says no.
-/

namespace PostQuery.Settings

/-- Variables of the environment with their values. -/
abbrev Environment := List (String × String)

namespace Environment

/-- The value of a variable. -/
def get? (env : Environment) (name : String) : Option String :=
  (env.find? fun e => e.1 == name).map Prod.snd

/-- The value of a variable that is not empty. -/
def filled? (env : Environment) (name : String) : Option String :=
  (get? env name).filter fun s => s != ""

/-- The texts that say yes, up to case and surrounding blanks. -/
def affirmative : List String := ["1", "true", "yes", "on"]

/-- The settings of an environment, before they are checked. -/
def draft (env : Environment) : Settings :=
  let named (name : String) (fallback : Value) := ((filled? env name).map Value.text).getD fallback
  let standard : Settings := {}
  { metaEntity := named "WP_QUERY_META_ENTITY" standard.metaEntity
    taxonomyEntity := named "WP_QUERY_TAX_ENTITY" standard.taxonomyEntity
    termField := named "WP_QUERY_TAX_FIELD" standard.termField
    explicitDefaults :=
      match get? env "WP_QUERY_EXPLICIT_DEFAULTS" with
      | some s => .bool (affirmative.contains (Text.lower (Text.trim s)))
      | none => standard.explicitDefaults }

end Environment

/-- The settings of an environment. -/
def ofEnvironment (env : Environment) : Except Fault Settings := (Environment.draft env).checked

end PostQuery.Settings
