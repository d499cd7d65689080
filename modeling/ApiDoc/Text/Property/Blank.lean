import ApiDoc.Text.CharRanges

/-!
# Blank characters

Two classes: the blanks that are trimmed from status keys, and the narrower class of white space
that is trimmed from the text of a number, which leaves out the four separators from `1c` to `1f`.
-/

namespace ApiDoc.Text

/-- The blanks: white space and the information separators. -/
def blankRanges : CharRanges :=
  [
    (0x9, 0xd), (0x1c, 0x20), (0x85, 0x85), (0xa0, 0xa0), (0x1680, 0x1680),
    (0x2000, 0x200a), (0x2028, 0x2029), (0x202f, 0x202f), (0x205f, 0x205f), (0x3000, 0x3000)
  ]

def isBlank (c : Char) : Bool := blankRanges.contains c

def isWhiteSpace (c : Char) : Bool := isBlank c && !(0x1c ≤ c.toNat && c.toNat ≤ 0x1f)

end ApiDoc.Text
