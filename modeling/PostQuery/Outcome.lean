import PostQuery.Builder

/-!
# Outcomes

An attempt that does not break has an outcome, which holds what was built or else the refusal. So a
caller may look at a refusal and go on, or unwrap the outcome and be stopped by it.
-/

namespace PostQuery

/-- What an attempt comes to. -/
structure Outcome where
  value : Option Dict := none
  error : Option Failure := none

namespace Outcome

/-- Something was built. -/
def isOk (o : Outcome) : Bool := o.error.isNone

/-- What was built. A refusal stops the caller, as it is. -/
def unwrap (o : Outcome) : Attempt (Option Dict) :=
  match o.error with
  | some f => .error (.refused f)
  | none => .ok o.value

/-- The outcome of an attempt; what breaks has none. -/
def ofAttempt : Attempt Dict → Except Misuse Outcome
  | .ok d => .ok { value := some d }
  | .error (.refused f) => .ok { error := some f }
  | .error (.broken m) => .error m

/-- What an attempt builds, for a caller that a refusal stops. -/
def build (a : Attempt Dict) : Attempt (Option Dict) :=
  match ofAttempt a with
  | .ok o => o.unwrap
  | .error m => .error (.broken m)

end Outcome

end PostQuery
