import PostQuery.Failure
import PostQuery.Value.Items

/-!
# Reports made from named parts

Every refusal of the library belongs to one of six classes, and a caller can make one of each from
named parts. Four classes take a message, a code, a subject and causes, all optional. A report on an
operator takes the operator and its context, one on a value takes the value, and both make up their
message unless they are given one.
-/

namespace PostQuery

/-- The classes of refusals. -/
inductive ReportClass where
  | builder
  | unsupportedExpression
  | unsupportedOperator
  | invalidValue
  | config
  | invalidFilter
  deriving DecidableEq, Inhabited

namespace ReportClass

def all : List ReportClass :=
  [.builder, .unsupportedExpression, .unsupportedOperator, .invalidValue, .config, .invalidFilter]

/-- The name of a class. -/
def name : ReportClass → String
  | .builder => "WpQueryBuilderError"
  | .unsupportedExpression => "UnsupportedExpressionError"
  | .unsupportedOperator => "UnsupportedOperatorError"
  | .invalidValue => "InvalidValueError"
  | .config => "ConfigError"
  | .invalidFilter => "InvalidFilterError"

/-- The class with the given name. -/
def ofName? (s : String) : Option ReportClass := all.find? fun c => c.name == s

/-- The classes above a class, the nearest first. -/
def ancestors : ReportClass → List String
  | .builder => ["Exception"]
  | .invalidFilter => [builder.name, "ValueError", "Exception"]
  | _ => [builder.name, "Exception"]

/-- The class whose parts a class takes: its own or the base's. -/
def maker : ReportClass → ReportClass
  | .unsupportedOperator => .unsupportedOperator
  | .invalidValue => .invalidValue
  | _ => .builder

/-- The parts that have to be given. -/
def required (c : ReportClass) : List String :=
  match c.maker with
  | .unsupportedOperator => ["operator", "context"]
  | .invalidValue => ["value"]
  | _ => []

/-- The parts that can be left out. -/
def optional (c : ReportClass) : List String :=
  match c.maker with
  | .unsupportedOperator => ["negated", "message"]
  | .invalidValue => ["message"]
  | _ => ["message", "code", "subject", "causes"]

end ReportClass

/-- A report as its parts make it. -/
structure Report where
  message : String
  subject : Value := .null
  code : Value := .null
  /-- The context and the negation of an operator. -/
  operatorParts : Option (Value × Value) := none
  causes : List Value := []

namespace Report

/-- Why parts make no report. -/
inductive Fault where
  /-- The report itself is named as one of its parts. -/
  | partIsReport (c : ReportClass)
  | unknownPart (c : ReportClass) (name : String)
  | missingParts (c : ReportClass) (names : List String)
  | misuse (m : Misuse)

/-- Names in quotes, the last two with the word "and" between them. -/
def listed : List String → String
  | [] => ""
  | [a] => "'" ++ a ++ "'"
  | [a, b] => "'" ++ a ++ "' and '" ++ b ++ "'"
  | a :: rest => "'" ++ a ++ "', " ++ listed rest

namespace Fault

/-- What is reported. -/
def message : Fault → String
  | .partIsReport c => c.maker.name ++ ".__init__() got multiple values for argument 'self'"
  | .unknownPart c name =>
    c.maker.name ++ ".__init__() got an unexpected keyword argument '" ++ name ++ "'"
  | .missingParts c names =>
    c.maker.name ++ ".__init__() missing " ++ unpadded names.length
      ++ " required positional argument" ++ (if names.length = 1 then "" else "s") ++ ": "
      ++ listed names
  | .misuse m => m.message

end Fault

/-- The report of a class that the given parts make. -/
def make (c : ReportClass) (parts : Dict) : Except Fault Report := do
  let names ← parts.mapM fun e =>
    match e.1 with
    | .text s => pure s
    | _ => throw (Fault.misuse .partNotText)
  match names.find? fun n => !(c.required ++ c.optional).contains n with
  | some "self" => throw (.partIsReport c)
  | some n => throw (.unknownPart c n)
  | none => pure ()
  let missing := c.required.filter fun n => !names.contains n
  if !missing.isEmpty then throw (.missingParts c missing)
  let part (name : String) (fallback : Value) : Value := (parts.get? (.text name)).getD fallback
  let given := part "message" .null
  match c.maker with
  | .unsupportedOperator =>
    let operator := part "operator" .null
    let context := part "context" .null
    let negated := part "negated" (.bool false)
    pure {
      message :=
        if given.truthy then given.display
        else Failure.operatorText operator context.display negated.truthy
      subject := operator
      operatorParts := some (context, negated) }
  | .invalidValue =>
    let value := part "value" .null
    pure {
      message := if given.truthy then given.display else Failure.valueText value
      subject := value }
  | _ =>
    let causes ← match (part "causes" (.tuple [])).items with
      | .ok items => pure items
      | .error m => throw (.misuse m)
    pure {
      message := (part "message" (.text "")).display
      code := part "code" .null
      subject := part "subject" .null
      causes }

end Report

end PostQuery
