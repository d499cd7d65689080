import ApiDoc.Yaml.Character

/-!
# Places in a text

A `Cursor` is the part of a text that is left, with the place where it begins. Every step forward
keeps the place right. The mark of byte order takes no column.
-/

namespace ApiDoc.Yaml

/-- The text that is left, and where it begins. -/
structure Cursor where
  rest : List Char
  /-- The number of characters before. -/
  index : Nat := 0
  line : Nat := 0
  column : Nat := 0

namespace Cursor

/-- The character `n` places ahead. -/
def peek (k : Cursor) (n : Nat := 0) : Option Char := k.rest[n]?

def past (k : Cursor) (c : Char) (cs : List Char) : Cursor :=
  if isBreak c then { rest := cs, index := k.index + 1, line := k.line + 1, column := 0 }
  else
    let column := if c = '\uFEFF' then k.column else k.column + 1
    { k with rest := cs, index := k.index + 1, column }

/-- The cursor `n` characters further on. -/
def advance : Nat → Cursor → Cursor
  | 0, k => k
  | n + 1, k =>
    match k.rest with
    | [] => k
    | c :: cs => advance n (k.past c cs)

/-- The characters of a class up to the first other one, and the cursor after them. -/
def takeWhile (p : Char → Bool) (k : Cursor) : List Char × Cursor :=
  let cs := k.rest.takeWhile p
  (cs, k.advance cs.length)

/-- The cursor after the characters of a class. -/
def skipWhile (p : Char → Bool) (k : Cursor) : Cursor := (k.takeWhile p).2

/-- The cursor after spaces. -/
def skipSpaces (k : Cursor) : Cursor := k.skipWhile (· = ' ')

/-- The cursor after a comment, if there is one here. -/
def skipComment (k : Cursor) : Cursor :=
  if k.peek = some '#' then k.skipWhile (!isBreak ·) else k

end Cursor

/-- Whether three equal characters, set apart, begin a text. -/
def startsMark (c : Char) (cs : List Char) : Bool :=
  match cs with
  | a :: b :: d :: rest => a = c && b = c && d = c && endsWord rest.head?
  | _ => false

/-- Whether a mark of the start or the end of a document begins a text. -/
def startsDocumentMark (cs : List Char) : Bool := startsMark '-' cs || startsMark '.' cs

end ApiDoc.Yaml
