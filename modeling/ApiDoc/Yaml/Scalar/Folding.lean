import ApiDoc.Yaml.Character

/-!
# Gaps in scalars

A scalar on several lines is folded: a single line break becomes a space, and of several the first
is left out. A `Gap` is the white space read since the last other character of the scalar.
-/

namespace ApiDoc.Yaml

/-- White space inside a scalar. -/
inductive Gap where
  | none
  /-- Blanks on one line. -/
  | blanks (cs : List Char)
  /-- Line breaks, the first of them set apart. -/
  | breaks (first : Char) (more : List Char)
  /-- The line breaks after one that is escaped. -/
  | joined (more : List Char)

namespace Gap

/-- What white space stands for. -/
def value : Gap → List Char
  | none => []
  | blanks cs => cs
  | breaks first more =>
    if first ≠ '\n' then first :: more else if more.isEmpty then [' '] else more
  | joined more => more

/-- White space with one more blank; blanks at the start of a line do not count. -/
def addBlank (c : Char) : Gap → Gap
  | none => blanks [c]
  | blanks cs => blanks (cs ++ [c])
  | g => g

/-- White space with one more line break. -/
def addBreak (c : Char) : Gap → Gap
  | none | blanks _ => breaks (breakValue c) []
  | breaks first more => breaks first (more ++ [breakValue c])
  | joined more => joined (more ++ [breakValue c])

/-- Whether a line ends in white space. -/
def hasBreak : Gap → Bool
  | none | blanks _ => false
  | breaks .. | joined _ => true

/-- Whether there is no white space. -/
def isNone : Gap → Bool
  | none => true
  | _ => false

end Gap

end ApiDoc.Yaml
