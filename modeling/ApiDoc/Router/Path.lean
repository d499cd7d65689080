import ApiDoc.Text.Property.Word
import ApiDoc.Text.Segments

/-!
# Paths

A path is the sequence of its segments that are not empty. Joining two paths puts the segments of
the second after those of the first, and writes every parameter `:name` as `{name}`.
-/

namespace ApiDoc.Path

open Text (isWord)

/-- The segments of a path that are not empty. -/
def segments (cs : List Char) : List (List Char) :=
  (Text.pieces '/' cs).filter fun s => !s.isEmpty

/-- Writes the parameters of a text in braces. `inName` says that a parameter is open: its name
goes on as long as there are word characters. -/
def braced (inName : Bool) : List Char → List Char
  | [] => if inName then ['\x7d'] else []
  | c :: cs =>
    if inName && isWord c then c :: braced true cs
    else
      -- A colon opens a name only in front of a word character.
      let opens := c = ':' ∧ (cs.head?.map isWord).getD false
      let rest := if opens then '\x7b' :: braced true cs else c :: braced false cs
      if inName then '\x7d' :: rest else rest

/-- A path made of segments: each after a slash, or a slash alone. -/
def ofSegments (ss : List (List Char)) : List Char :=
  match ss with
  | [] => ['/']
  | ss => ss.flatMap ('/' :: ·)

/-- The path of `path` below `mount`. -/
def joinChars (mount path : List Char) : List Char :=
  ofSegments ((segments (mount ++ '/' :: path)).map (braced false))

/-- The path of `path` below `mount`. -/
def join (mount path : String) : String := .ofList (joinChars mount.toList path.toList)

/-- The names in braces that consist of word characters, in order. `open_` holds the characters
since the last opening brace, the last one first, as long as they can be a name. -/
def templateNamesFrom (open_ : Option (List Char)) : List Char → List (List Char)
  | [] => []
  | c :: cs =>
    if c = '\x7b' then templateNamesFrom (some []) cs
    else
      match open_ with
      | none => templateNamesFrom none cs
      | some name =>
        -- A name goes on, is closed by a brace, or is given up.
        if isWord c then templateNamesFrom (some (c :: name)) cs
        else if c = '\x7d' ∧ name ≠ [] then name.reverse :: templateNamesFrom none cs
        else templateNamesFrom none cs

/-- The names of the parameters of a path, in order. -/
def templateNames (path : String) : List String :=
  (templateNamesFrom none path.toList).map .ofList

end ApiDoc.Path
