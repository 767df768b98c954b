import PostQuery.Token
import PostQuery.Catalog
import PostQuery.Misuse

/-!
# Refusals

Why a tree or a part of one cannot be turned into query arguments. A refusal of a builder names its
subject and carries what led to it: one cause, or one refusal for each strategy that was tried. At
the leaves stand an operator that does not exist, a value that has no normal form, and operands that
do not fit the clause.
-/

namespace PostQuery

/-- Why the terms of a comparison do not make a clause. -/
inductive OperandFault where
  | unexpected (term : Value)
  | noField
  | noValue
  | notPair (operator : Token)
  | notSingle (operator : Token)
  | noTerms (operator : Token)

/-- What a builder has to say about the tree it refuses. -/
inductive Complaint where
  | notRelational
  | compare
  | metaCompare
  | taxonomyCompare
  | relation
  | relationTerm
  | root
  | rootTerm
  | noStrategy
  deriving DecidableEq

/-- Why something is refused. -/
inductive Failure where
  /-- A builder refuses its subject. -/
  | unsupported (message : String) (subject : Value) (cause : Option Failure)
      (causes : List Failure)
  /-- The context has no such operator, perhaps because the kind has no text. -/
  | operator (operator : Value) (context : Context) (negated : Bool) (cause : Option Failure)
  /-- The value has no normal form. -/
  | value (subject : Value)
  /-- The terms do not make a clause. -/
  | operands (fault : OperandFault)

namespace OperandFault

/-- What is reported. -/
def message : OperandFault → String
  | .unexpected term => "Unexpected term " ++ term.inspect
  | .noField => "No field term found"
  | .noValue => "No value term found"
  | .notPair operator => operator.text ++ " requires exactly 2 values"
  | .notSingle operator => operator.text ++ " requires a single value"
  | .noTerms operator => operator.text ++ " requires at least one term"

end OperandFault

namespace Complaint

/-- The message before a catalog rewords it. -/
def text : Complaint → String
  | .notRelational => "Expression is not a relational expression"
  | .compare => "Expression is not a valid WP_Query compare"
  | .metaCompare => "Expression is not a valid WP_Query meta compare"
  | .taxonomyCompare => "Expression is not a valid WP_Query taxonomy compare"
  | .relation => "Expression is not a valid WP_Query relation"
  | .relationTerm => "Relation term is not an expression"
  | .root => "Expression is not supported"
  | .rootTerm => "Expression term is not an expression"
  | .noStrategy => "Expression could not be built - no supported build method found"

end Complaint

namespace Failure

/-- The report on an operator that a context does not have; the operator and the context may be
anything that has a text. -/
def operatorText (operator : Value) (context : String) (negated : Bool) : String :=
  "Operator " ++ (if negated then "negated " else "") ++ "'" ++ operator.display
    ++ "' is not supported in " ++ context ++ " context"

/-- The report on a value that has no normal form. -/
def valueText (v : Value) : String := "Value of type " ++ v.typeName ++ " cannot be normalized"

/-- What is reported. -/
def message : Failure → String
  | .unsupported message _ _ _ => message
  | .operator name context negated _ => operatorText name context.text negated
  | .value subject => valueText subject
  | .operands fault => fault.message

/-- What the refusal is about; operands that do not fit are told by their message alone. -/
def subject? : Failure → Option Value
  | .unsupported _ subject _ _ => some subject
  | .operator name _ _ _ => some name
  | .value subject => some subject
  | .operands _ => none

/-- The one refusal that led to this one. -/
def cause? : Failure → Option Failure
  | .unsupported _ _ cause _ => cause
  | .operator _ _ _ cause => cause
  | _ => none

/-- The refusals of all the strategies that were tried. -/
def causes : Failure → List Failure
  | .unsupported _ _ _ causes => causes
  | _ => []

end Failure

end PostQuery
