/-!
# The fixed vocabularies

Four closed vocabularies: the junctions that combine conditions, the comparisons of one condition,
the two kinds of nested query, and the contexts in which an operator is looked up. Every member has
a name and a written value; the value is what a raw text is compared with.
-/

namespace PostQuery

/-- How the terms of a group are combined. -/
inductive Junction where
  | and
  | or
  deriving DecidableEq, Inhabited

/-- How one condition compares a field with a value. -/
inductive Comparison where
  | equal
  | notEqual
  | greater
  | greaterEqual
  | less
  | lessEqual
  | like
  | among
  | notAmong
  | between
  | present
  | pattern
  /-- Every listed value must match. -/
  | every
  deriving DecidableEq, Inhabited

/-- Which kind of nested query a relation belongs to. -/
inductive Mode where
  | postMeta
  | taxonomy
  deriving DecidableEq, Inhabited

/-- Where an operator stands, which decides the operators there are. -/
inductive Context where
  | compare
  | postMeta
  | taxonomy
  | relation
  deriving DecidableEq, Inhabited

namespace Junction

def all : List Junction := [.and, .or]

def text : Junction → String
  | .and => "and"
  | .or => "or"

def name : Junction → String
  | .and => "AND"
  | .or => "OR"

/-- The junction with the given written value. -/
def ofText? (s : String) : Option Junction := all.find? fun j => j.text == s

/-- The junction with the given name. -/
def ofName? (s : String) : Option Junction := all.find? fun j => j.name == s

end Junction

namespace Comparison

def all : List Comparison :=
  [.equal, .notEqual, .greater, .greaterEqual, .less, .lessEqual, .like, .among, .notAmong,
   .between, .present, .pattern, .every]

def text : Comparison → String
  | .equal => "="
  | .notEqual => "!="
  | .greater => ">"
  | .greaterEqual => ">="
  | .less => "<"
  | .lessEqual => "<="
  | .like => "like"
  | .among => "in"
  | .notAmong => "not_in"
  | .between => "between"
  | .present => "exists"
  | .pattern => "regexp"
  | .every => "all"

def name : Comparison → String
  | .equal => "EQUAL_TO"
  | .notEqual => "NOT_EQUAL_TO"
  | .greater => "GREATER_THAN"
  | .greaterEqual => "GREATER_EQUAL_TO"
  | .less => "LESS_THAN"
  | .lessEqual => "LESS_EQUAL_TO"
  | .like => "LIKE"
  | .among => "IN"
  | .notAmong => "NOT_IN"
  | .between => "BETWEEN"
  | .present => "EXISTS"
  | .pattern => "REGEXP"
  | .every => "ALL"

/-- The comparison with the given written value. -/
def ofText? (s : String) : Option Comparison := all.find? fun c => c.text == s

/-- The comparison with the given name. -/
def ofName? (s : String) : Option Comparison := all.find? fun c => c.name == s

end Comparison

namespace Mode

def all : List Mode := [.postMeta, .taxonomy]

def text : Mode → String
  | .postMeta => "meta"
  | .taxonomy => "tax"

def name : Mode → String
  | .postMeta => "META"
  | .taxonomy => "TAX"

/-- The mode with the given written value. -/
def ofText? (s : String) : Option Mode := all.find? fun m => m.text == s

/-- The mode with the given name. -/
def ofName? (s : String) : Option Mode := all.find? fun m => m.name == s

end Mode

namespace Context

def all : List Context := [.compare, .postMeta, .taxonomy, .relation]

def text : Context → String
  | .compare => "compare"
  | .postMeta => "meta"
  | .taxonomy => "tax"
  | .relation => "relation"

def name : Context → String
  | .compare => "COMPARE"
  | .postMeta => "META"
  | .taxonomy => "TAX"
  | .relation => "RELATION"

/-- The context with the given written value. -/
def ofText? (s : String) : Option Context := all.find? fun c => c.text == s

/-- The context with the given name. -/
def ofName? (s : String) : Option Context := all.find? fun c => c.name == s

end Context

end PostQuery
