import ApiDoc.Text.Segments

/-!
# Paths of files

A path is a list of names, from the starting directory or from the root. Empty names and single
points do not count, while a step up is kept: what it leads to depends on the files.
-/

namespace ApiDoc

structure FilePath where
  absolute : Bool
  names : List String
  deriving DecidableEq, Repr

namespace FilePath

/-- The path that a text writes. -/
def ofText (s : String) : FilePath :=
  let names := (Text.pieces '/' s.toList).filter fun n => !n.isEmpty && n ≠ ['.']
  { absolute := s.toList.head? = some '/', names := names.map .ofList }

/-- A path as text. The starting directory itself is a point. -/
def text (p : FilePath) : String :=
  let names := "/".intercalate p.names
  if p.absolute then "/" ++ names else if p.names.isEmpty then "." else names

/-- The path without its last name. -/
def parent (p : FilePath) : FilePath := { p with names := p.names.dropLast }

/-- The ending of a name: its last point and what follows, unless one of the sides of the point is
empty. -/
def endingOf (name : List Char) : List Char :=
  let behind := (name.reverse.takeWhile (· ≠ '.')).reverse
  let before := name.length - behind.length
  if behind.isEmpty || before ≤ 1 then [] else '.' :: behind

/-- The ending of the last name. -/
def ending (p : FilePath) : String :=
  match p.names.getLast? with
  | some name => .ofList (endingOf name.toList)
  | none => ""

end FilePath

end ApiDoc
