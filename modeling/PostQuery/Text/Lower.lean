import PostQuery.Text.LowerRuns

/-!
# Lower case

Full lower-casing of a text: every character goes through its simple mapping, with two
exceptions. U+0130, the capital I with a dot above, becomes an i followed by a combining dot, so the
result can be longer than the text. A capital sigma becomes the final form when it closes a word:
some letter stands before it, none after it, with apostrophes, marks and the like passed over.
-/

namespace PostQuery.Text

/-- The shift of the first run that lists the code point. -/
def lowerShift (n : Nat) : Int :=
  match lowerRuns.find? fun r => r.first ≤ n && n ≤ r.last && (n - r.first) % r.step == 0 with
  | some r => r.shift
  | none => 0

/-- The simple lower-case mapping of a character. -/
def lowerChar (c : Char) : Char :=
  if c.toNat < 0x80 then c.toLower else Char.ofNat (c.toNat + lowerShift c.toNat).toNat

/-- The nearest character that is not passed over has a case. -/
def meetsCased (cs : List Char) : Bool :=
  match cs.dropWhile fun c => inRuns caseIgnorableRuns c.toNat with
  | c :: _ => inRuns casedRuns c.toNat
  | [] => false

/-- The capital sigma. -/
def capitalSigma : Char := Char.ofNat 0x3A3

/-- Lower case of the characters of the second list; the first holds those already read, the
latest first. -/
def lowerFrom : List Char → List Char → List Char
  | _, [] => []
  | before, c :: rest =>
    let lowered :=
      if c = capitalSigma then
        [Char.ofNat (if meetsCased before && !meetsCased rest then 0x3C2 else 0x3C3)]
      else if c.toNat = 0x130 then ['i', Char.ofNat 0x307]
      else [lowerChar c]
    lowered ++ lowerFrom (c :: before) rest

/-- The text in lower case. -/
def lower (s : String) : String := String.ofList (lowerFrom [] s.toList)

end PostQuery.Text
