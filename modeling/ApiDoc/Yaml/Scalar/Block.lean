import ApiDoc.Yaml.Cursor
import ApiDoc.Yaml.Error

/-!
# Block scalars

A block scalar has a head, which says how its lines are joined and what happens to the breaks behind
the last one, and then its lines, which are the following ones that are indented. The indentation is
given in the head or taken from the first line that is not blank.
-/

namespace ApiDoc.Yaml.Scalar

/-- What happens to the line breaks at the end of a block scalar. -/
inductive Chomping where
  | strip
  /-- One break is kept. -/
  | clip
  | keep
  deriving DecidableEq, Repr

structure BlockHead where
  chomping : Chomping := .clip
  /-- The further indentation of its lines, when it is given. -/
  increment : Option Nat := none

/-- The chomping that a character asks for. -/
def chomping? (c : Char) : Option Chomping := [('+', Chomping.keep), ('-', .strip)].lookup c

/-- The indentation that a digit asks for; zero is none. -/
def increment? (c : Char) : Option Nat :=
  if '1' ≤ c ∧ c ≤ '9' then some (c.toNat - 0x30) else none

/-- Reads the head of a block scalar, whose two parts come in any order. Also the number of its
characters. -/
def readHead (cs : List Char) : BlockHead × Nat :=
  match cs.head?.bind chomping?, cs.head?.bind increment? with
  | some chomping, _ =>
    match cs[1]?.bind increment? with
    | some n => ({ chomping, increment := some n }, 2)
    | none => ({ chomping }, 1)
  | none, some n =>
    match cs[1]?.bind chomping? with
    | some chomping => ({ chomping, increment := some n }, 2)
    | none => ({ increment := some n }, 1)
  | none, none => ({}, 0)

/-- A line of a text: its characters and the break after them, if there is one. -/
structure Line where
  text : List Char
  ending : Option Char

namespace Line

/-- The number of spaces that a line begins with. -/
def indent (l : Line) : Nat := (l.text.takeWhile (· = ' ')).length

/-- Whether a line holds nothing but at most so many spaces. -/
def isEmptyAt (n : Nat) (l : Line) : Bool := l.indent = l.text.length && l.text.length ≤ n

/-- The number of characters of a line with its break. -/
def length (l : Line) : Nat := l.text.length + (if l.ending.isSome then 1 else 0)

end Line

/-- The lines of a text up to the first that begins before a column; of that one only its spaces.
`spaces` is the number of spaces since the last break, if there was nothing else. A break at the
very end is followed by a line without characters. -/
def lines (column : Nat) (spaces : Option Nat) : List Char → List Line
  | [] => [⟨[], none⟩]
  | c :: cs =>
    if isBreak c then ⟨[], some c⟩ :: lines column (some 0) cs
    else if c ≠ ' ' && spaces.any (· < column) then [⟨[], none⟩]
    else
      match lines column (if c = ' ' then spaces.map (· + 1) else none) cs with
      | l :: ls => { l with text := c :: l.text } :: ls
      | [] => [⟨[c], none⟩]

/-- The indentation that the lines themselves show: that of the first line that is not blank, or of
a longer blank line before it. -/
def shownIndent : List Line → Nat
  | [] => 0
  | l :: ls =>
    if l.indent = l.text.length ∧ l.ending.isSome then max l.text.length (shownIndent ls)
    else l.indent

/-- What comes before the next line of a block scalar. -/
structure Seam where
  /-- The break after the last line, if a line has been read. -/
  lineBreak : List Char := []
  /-- The breaks of empty lines since then. -/
  breaks : List Char := []
  /-- Whether the last line began with a character other than a blank. -/
  flush : Bool := false

namespace Seam

/-- What stands between the last line and the next one. -/
def value (folded : Bool) (s : Seam) (next : List Char) : List Char :=
  let nextFlush := match next.head? with
    | some c => !isBlank c
    | none => true
  if folded && s.lineBreak = ['\n'] && s.flush && nextFlush then
    if s.breaks.isEmpty then [' '] else s.breaks
  else s.lineBreak ++ s.breaks

/-- What stands behind the last line of all. -/
def ending (c : Chomping) (s : Seam) : List Char :=
  match c with
  | .strip => []
  | .clip => s.lineBreak
  | .keep => s.lineBreak ++ s.breaks

end Seam

/-- Joins the lines that are indented to column `n`, up to the first that is not. Also the number of
their characters. -/
def joinLines (folded : Bool) (c : Chomping) (n : Nat) (s : Seam) : List Line → List Char × Nat
  | [] => (s.ending c, 0)
  | l :: ls =>
    let breaks := (l.ending.map breakValue).toList
    if l.isEmptyAt n then
      let (text, length) := joinLines folded c n { s with breaks := s.breaks ++ breaks } ls
      (text, l.length + length)
    else if n ≤ l.indent then
      let content := l.text.drop n
      let flush := (content.head?.map fun c => !isBlank c).getD true
      let (text, length) := joinLines folded c n { lineBreak := breaks, flush } ls
      (s.value folded content ++ content ++ text, l.length + length)
    else (s.ending c, l.indent)

/-- Reads a block scalar behind the character that begins it. `parent` is the column that its lines
have to reach at least. -/
def readBlock (folded : Bool) (parent : Nat) (k : Cursor) :
    Except Error (List Char × Cursor) :=
  let (head, length) := readHead k.rest
  let k := k.advance length
  if !endsItem k.peek then .error (.malformed .blockHead)
  else
    let k := k.skipSpaces.skipComment
    if !endsLine k.peek then .error (.malformed .blockHead)
    else
      let k := k.advance 1
      let least := max parent 1
      let ls := lines least (some 0) k.rest
      -- Without an increment the lines show their indentation.
      let n := match head.increment with
        | some i => least + i - 1
        | none => max least (shownIndent ls)
      let (text, length) := joinLines folded head.chomping n {} ls
      .ok (text, k.advance length)

end ApiDoc.Yaml.Scalar
