import ApiDoc.Yaml.Cursor
import ApiDoc.Yaml.Scalar.Folding

/-!
# Plain scalars

A plain scalar has no mark of its end. It goes on until a comment, a colon that is set apart, a
line that is not indented enough, or, in a flow collection, a character that parts its entries.
-/

namespace ApiDoc.Yaml.Scalar

/-- Whether a plain scalar can start with a character, before the text `cs`. -/
def startsPlain (inFlow : Bool) (c : Char) (cs : List Char) : Bool :=
  (!isSpace c && !isIndicator c)
    || (!endsWord cs.head? && (c = '-' || (!inFlow && (c = '?' || c = ':'))))

/-- Whether a character, before the text `cs`, ends a plain scalar. -/
def endsPlain (inFlow : Bool) (c : Char) (cs : List Char) : Bool :=
  isSpace c
    || (c = ':' && (endsWord cs.head? || (inFlow && (cs.head?.map isFlowIndicator).getD false)))
    || (inFlow && (c = '?' || isFlowIndicator c))

/-- A plain scalar that has been read. -/
structure Plain where
  text : List Char
  /-- The number of characters up to the end of the white space behind the scalar. -/
  length : Nat
  /-- Whether a line ended behind the scalar. -/
  endsLine : Bool

/-- The scalar that begins one character earlier, which stands for `front`. -/
def Plain.behind (front : List Char) (r : Plain) : Plain :=
  { r with text := front ++ r.text, length := r.length + 1 }

/-- The rest of a plain scalar. `indent` is the column that its lines have to reach, `column` the
one of the next character, and `gap` the white space before it. -/
def plainFrom (inFlow : Bool) (indent column : Nat) (gap : Gap) : List Char → Plain
  | [] => ⟨[], 0, gap.hasBreak⟩
  | c :: cs =>
    if c = ' ' then (plainFrom inFlow indent (column + 1) (gap.addBlank c) cs).behind []
    else if isBreak c then
      if startsDocumentMark cs then ⟨[], 1, true⟩
      else (plainFrom inFlow indent 0 (gap.addBreak c) cs).behind []
    else if endsPlain inFlow c cs || (!gap.isNone && (c = '#' || (!inFlow && column < indent))) then
      ⟨[], 0, gap.hasBreak⟩
    else (plainFrom inFlow indent (column + 1) .none cs).behind (gap.value ++ [c])

end ApiDoc.Yaml.Scalar
