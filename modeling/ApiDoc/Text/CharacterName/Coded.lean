import ApiDoc.Text.Digits
import ApiDoc.Text.Segments

/-!
# Tables of names

The names of characters that follow each other often begin alike. A table holds, for each character,
how many letters its name shares with the one before, as two digits, and the rest of its name.
`+` and a hexadecimal number stand for so many characters without a name.
-/

namespace ApiDoc.Text.CharacterName

/-- The names of characters from a code point on; the parts of a line stand between semicolons. -/
structure Coded where
  first : Nat
  lines : List String

/-- Where a search stands: the name last read and the next code point. -/
structure Place where
  previous : List Char
  next : Nat

/-- The number that hexadecimal digits write. -/
def hexadecimal (cs : List Char) : Nat := cs.foldl (fun n c => n * 16 + (hexValue? c).getD 0) 0

/-- The name that a part of a line stands for, behind the one before. -/
def nameOf (previous : List Char) (part : List Char) : List Char :=
  previous.take (decimal (part.take 2)) ++ part.drop 2

/-- Searches a name in the parts of a line: its code point, or the place behind the line. -/
def search (name : List Char) (place : Place) : List (List Char) → Except Nat Place
  | [] => .ok place
  | ('+' :: gap) :: parts =>
    search name { place with next := place.next + hexadecimal gap } parts
  | part :: parts =>
    let found := nameOf place.previous part
    if found = name then .error place.next else search name ⟨found, place.next + 1⟩ parts

def searchLines (name : List Char) (place : Place) : List String → Option Nat
  | [] => none
  | line :: lines =>
    match search name place (pieces ';' line.toList) with
    | .error n => some n
    | .ok place => searchLines name place lines

/-- The code point that has a name in a table. -/
def Coded.find? (table : Coded) (name : List Char) : Option Nat :=
  searchLines name ⟨[], table.first⟩ table.lines

end ApiDoc.Text.CharacterName
