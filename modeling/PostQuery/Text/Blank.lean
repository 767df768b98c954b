import PostQuery.Text.Runs

/-!
# Blank characters

Twenty-nine characters count as blank: the separators and line breaks of Unicode together with the
four information separators U+001C to U+001F. A byte order mark and the zero-width space are not
among them. Trimming removes blanks at both ends and nothing inside.
-/

namespace PostQuery.Text

/-- The blank code points, in increasing order. -/
def blankRuns : List Run :=
  [(0x9, 0xD), (0x1C, 0x20), (0x85, 0x85), (0xA0, 0xA0), (0x1680, 0x1680), (0x2000, 0x200A),
   (0x2028, 0x2029), (0x202F, 0x202F), (0x205F, 0x205F), (0x3000, 0x3000)]

/-- The character is blank. -/
def isBlank (c : Char) : Bool := inRuns blankRuns c.toNat

/-- The text without the blanks it begins and ends with. -/
def trimChars (cs : List Char) : List Char :=
  (((cs.dropWhile isBlank).reverse).dropWhile isBlank).reverse

/-- The text without the blanks it begins and ends with. -/
def trim (s : String) : String := String.ofList (trimChars s.toList)

end PostQuery.Text
