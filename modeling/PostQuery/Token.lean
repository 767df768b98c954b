import PostQuery.Kind

/-!
# Operator tokens

The operators as the query arguments spell them, and which one each context has for a comparison or
a junction. A negated condition takes the opposite operator; negation never adds a word of its own.
Some entries have no opposite, and those cannot be negated.
-/

namespace PostQuery

inductive Token where
  | equal
  | notEqual
  | greater
  | lessEqual
  | greaterEqual
  | less
  | among
  | notAmong
  | like
  | notLike
  | between
  | notBetween
  | present
  | notPresent
  | pattern
  | notPattern
  | and
  | or
  deriving DecidableEq, Inhabited

namespace Token

def text : Token → String
  | .equal => "="
  | .notEqual => "!="
  | .greater => ">"
  | .lessEqual => "<="
  | .greaterEqual => ">="
  | .less => "<"
  | .among => "IN"
  | .notAmong => "NOT IN"
  | .like => "LIKE"
  | .notLike => "NOT LIKE"
  | .between => "BETWEEN"
  | .notBetween => "NOT BETWEEN"
  | .present => "EXISTS"
  | .notPresent => "NOT EXISTS"
  | .pattern => "REGEXP"
  | .notPattern => "NOT REGEXP"
  | .and => "AND"
  | .or => "OR"

/-- The operator takes a list of values. -/
def takesList : Token → Bool
  | .among | .notAmong => true
  | _ => false

/-- The operator takes exactly two values. -/
def takesRange : Token → Bool
  | .between | .notBetween => true
  | _ => false

/-- The operator asks whether there is a value, and needs none itself. -/
def asksPresence : Token → Bool
  | .present | .notPresent => true
  | _ => false

end Token

/-- What a context has for a condition: the operator, and that of the negated condition. -/
structure TokenPair where
  plain : Token
  negated : Option Token
  deriving DecidableEq

namespace Context

/-- Operators of a comparison that is an argument of its own. -/
def comparePair? : Comparison → Option TokenPair
  | .equal => some ⟨.equal, some .notEqual⟩
  | .notEqual => some ⟨.notEqual, some .equal⟩
  | .greater => some ⟨.greater, some .lessEqual⟩
  | .greaterEqual => some ⟨.greaterEqual, some .less⟩
  | .less => some ⟨.less, some .greaterEqual⟩
  | .lessEqual => some ⟨.lessEqual, some .greater⟩
  | .among => some ⟨.among, some .notAmong⟩
  | .notAmong => some ⟨.notAmong, some .among⟩
  | _ => none

/-- Operators of a clause on a post meta field: those of a plain comparison and four more. -/
def metaPair? : Comparison → Option TokenPair
  | .like => some ⟨.like, some .notLike⟩
  | .between => some ⟨.between, some .notBetween⟩
  | .present => some ⟨.present, some .notPresent⟩
  | .pattern => some ⟨.pattern, some .notPattern⟩
  | c => comparePair? c

/-- Operators of a clause on a taxonomy. To equal a term is to be among the terms. -/
def taxonomyPair? : Comparison → Option TokenPair
  | .equal | .among => some ⟨.among, some .notAmong⟩
  | .notEqual | .notAmong => some ⟨.notAmong, some .among⟩
  | .present => some ⟨.present, some .notPresent⟩
  | .every => some ⟨.and, none⟩
  | _ => none

/-- Operators that combine the clauses of a relation; neither can be negated. -/
def relationPair : Junction → TokenPair
  | .and => ⟨.and, none⟩
  | .or => ⟨.or, none⟩

/-- What a context has for a key, the written value of a comparison or a junction. -/
def pair? (ctx : Context) (key : String) : Option TokenPair :=
  match ctx with
  | .compare => (Comparison.ofText? key).bind comparePair?
  | .postMeta => (Comparison.ofText? key).bind metaPair?
  | .taxonomy => (Comparison.ofText? key).bind taxonomyPair?
  | .relation => (Junction.ofText? key).map relationPair

/-- The operator that is assumed where none is given. -/
def default : Context → Token
  | .compare | .postMeta => .equal
  | .taxonomy => .among
  | .relation => .and

/-- A text is that of the operator assumed in the context. -/
def isDefault (ctx : Context) (operator : String) : Bool := operator == ctx.default.text

end Context

end PostQuery
