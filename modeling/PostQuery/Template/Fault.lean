import PostQuery.Misuse

/-!
# Why a template cannot be filled in

The causes, the kind of report each of them makes, and what it says. A template of characters and
one of bytes word some of them differently.
-/

namespace PostQuery

namespace Template

open Number

/-- What a template is made of. -/
inductive Script where
  | characters
  | octets

/-- Why a template cannot be filled in. -/
inductive Fault where
  | tooFew
  | tooMany (script : Script)
  | needsDict
  | unknownKey (key : Value)
  | openKey
  | incomplete
  | starNotInt
  | starTooLarge (cType : String)
  | widthTooBig
  | precisionTooBig (script : Script)
  | unsupported (script : Script) (c : Char) (index : Nat)
  /-- A byte beyond the seven bits in place of a conversion. -/
  | noConversion
  | notInteger (c : Char) (v : Value)
  | notNumber (c : Char) (v : Value)
  | notReal (script : Script) (v : Value)
  | notBytes (v : Value)
  | notChar (script : Script)
  | charRange (script : Script)
  /-- What is not a number, or an infinity, as an integer. -/
  | noInteger (isNan : Bool) (what : String)
  | tooLargeForFloat
  | signaling
  | tooManyDigits
  | notTemplate (template args : Value)
  | misuse (m : Misuse)

namespace Fault

/-- The kind of report. -/
def kind : Fault → MisuseKind
  | .tooFew | .tooMany _ | .needsDict | .starNotInt | .notInteger .. | .notNumber .. | .notReal ..
  | .notBytes _ | .notChar _ | .notTemplate .. => .type
  | .unknownKey _ => .key
  | .openKey | .incomplete | .widthTooBig | .precisionTooBig _ | .unsupported .. | .signaling
  | .tooManyDigits => .value
  | .noInteger isNan _ => if isNan then .value else .overflow
  | .starTooLarge _ | .charRange _ | .noConversion | .tooLargeForFloat => .overflow
  | .misuse m => m.kind

/-- What is reported. -/
def message : Fault → String
  | .tooFew => "not enough arguments for format string"
  | .tooMany .characters => "not all arguments converted during string formatting"
  | .tooMany .octets => "not all arguments converted during bytes formatting"
  | .needsDict => "format requires a mapping"
  | .unknownKey key => key.inspect
  | .openKey => "incomplete format key"
  | .incomplete => "incomplete format"
  | .starNotInt => "* wants int"
  | .starTooLarge cType => "Python int too large to convert to C " ++ cType
  | .widthTooBig => "width too big"
  | .precisionTooBig .characters => "precision too big"
  | .precisionTooBig .octets => "prec too big"
  | .unsupported script c index =>
    let shown := match script with
      | .characters => if 31 ≤ c.toNat && c.toNat ≤ 126 then c else '?'
      | .octets => c
    "unsupported format character '" ++ String.singleton shown ++ "' (0x"
      ++ String.ofList (Nat.toDigits 16 c.toNat) ++ ") at index " ++ unpadded index
  | .noConversion => "character argument not in range(0x110000)"
  | .notInteger c v =>
    "%" ++ String.singleton c ++ " format: an integer is required, not " ++ v.fullTypeName
  | .notNumber c v =>
    "%" ++ String.singleton c ++ " format: a real number is required, not " ++ v.fullTypeName
  | .notReal .characters v => "must be real number, not " ++ v.fullTypeName
  | .notReal .octets v => "float argument required, not " ++ v.fullTypeName
  | .notBytes v =>
    "%b requires a bytes-like object, or an object that implements __bytes__, not '"
      ++ v.fullTypeName ++ "'"
  | .notChar .characters => "%c requires int or char"
  | .notChar .octets => "%c requires an integer in range(256) or a single byte"
  | .charRange .characters => "%c arg not in range(0x110000)"
  | .charRange .octets => "%c arg not in range(256)"
  | .noInteger _ what => "cannot convert " ++ what ++ " to integer"
  | .tooLargeForFloat => "int too large to convert to float"
  | .signaling => "cannot convert signaling NaN to float"
  | .tooManyDigits =>
    "Exceeds the limit (4300 digits) for integer string conversion; "
      ++ "use sys.set_int_max_str_digits() to increase the limit"
  | .notTemplate template args =>
    "unsupported operand type(s) for %: '" ++ template.fullTypeName ++ "' and '"
      ++ args.fullTypeName ++ "'"
  | .misuse m => m.message

end Fault

end Template

end PostQuery
