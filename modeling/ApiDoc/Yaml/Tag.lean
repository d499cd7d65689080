import ApiDoc.Text.Segments
import ApiDoc.Yaml.Timestamp

/-!
# Tags

The tag of a node says what type its value has. A plain scalar without a tag gets one by the form of
its text, for instance `yes`, `0x1F`, `1.5` or `2020-01-02`; a text of no such form is a string.
-/

namespace ApiDoc.Yaml

/-- The types of values. -/
inductive Tag where
  | null
  | bool
  | int
  | float
  | timestamp
  | binary
  | str
  | seq
  | map
  /-- A mapping whose keys are all that counts. -/
  | set
  /-- A list of mappings with one entry each. -/
  | pairs
  /-- The key under which mappings to be merged stand. -/
  | merge
  /-- The key of a default value. -/
  | value
  /-- A type that is not known. -/
  | other (name : String)
  deriving DecidableEq, Repr

namespace Tag

/-- The names of the types, without the domain that all have in common. -/
def names : List (String × Tag) :=
  [("null", null), ("bool", bool), ("int", int), ("float", float), ("timestamp", timestamp),
    ("binary", binary), ("str", str), ("seq", seq), ("map", map), ("set", set), ("pairs", pairs),
    ("omap", pairs), ("merge", merge), ("value", value)]

/-- Whether the values of a type are containers. -/
def isContainer : Tag → Bool
  | seq | map | set | pairs => true
  | _ => false

/-- The beginning of the tags of all known types. -/
def domain : String := "tag:yaml.org,2002:"

/-- The type that a tag in full stands for. -/
def ofName (name : String) : Tag :=
  if domain.toList.isPrefixOf name.toList then
    (names.lookup (.ofList (name.toList.drop domain.toList.length))).getD (other name)
  else other name

/-! ## Forms of plain scalars -/

/-- The text behind a sign, if there is one. -/
def unsigned : List Char → List Char
  | c :: cs => if c = '+' ∨ c = '-' then cs else c :: cs
  | [] => []

/-- Whether a text is of one or more characters of a class. -/
def isRun (p : Char → Bool) (cs : List Char) : Bool := !cs.isEmpty && cs.all p

/-- Whether a character is a digit or an underscore. -/
def isDigitOrGap (c : Char) : Bool := c.isDigit || c = '_'

/-- Whether a text is a digit in base 60. -/
def isSixty : List Char → Bool
  | [c] => c.isDigit
  | [c, d] => '0' ≤ c && c ≤ '5' && d.isDigit
  | _ => false

/-- Whether a text is of a digit followed by digits and underscores. -/
def isDigits : List Char → Bool
  | c :: cs => c.isDigit && cs.all isDigitOrGap
  | [] => false

/-- Whether a text is an exponent, or empty. -/
def isExponent : List Char → Bool
  | [] => true
  | e :: s :: ds => (e = 'e' || e = 'E') && (s = '+' || s = '-') && isRun Char.isDigit ds
  | _ => false

/-- Whether a text is of two or more digits in base 60, of which the first is like `first`. -/
def isSixties (first : List Char → Bool) (cs : List Char) : Bool :=
  match Text.pieces ':' cs with
  | p :: ps@(_ :: _) => first p && ps.all isSixty
  | _ => false

/-- Whether a text writes an integer. -/
def isInteger (cs : List Char) : Bool :=
  let isDecimal : List Char → Bool
    | '0' :: _ => false
    | ds => isDigits ds
  match unsigned cs with
  | '0' :: 'b' :: ds => isRun (fun c => c = '0' || c = '1' || c = '_') ds
  | '0' :: 'x' :: ds =>
    isRun (fun c => c.isDigit || ('a' ≤ c.toLower && c.toLower ≤ 'f') || c = '_') ds
  | '0' :: ds => ds.all fun c => ('0' ≤ c && c ≤ '7') || c = '_'
  | ds => isDecimal ds || isSixties isDecimal ds

/-- Whether a text writes a floating-point number. -/
def isFloat (cs : List Char) : Bool :=
  let (whole, rest) := (unsigned cs).span (· ≠ '.')
  match rest with
  | [] => false
  | _ :: rest =>
    let fraction := rest.takeWhile isDigitOrGap
    let behind := rest.dropWhile isDigitOrGap
    if whole.isEmpty then
      [['i', 'n', 'f'], ['I', 'n', 'f'], ['I', 'N', 'F']].contains rest
        || (unsigned cs = cs
          && (isDigits fraction && isExponent behind
            || [['n', 'a', 'n'], ['N', 'a', 'N'], ['N', 'A', 'N']].contains rest))
    else
      isDigits whole && isExponent behind || isSixties isDigits whole && behind.isEmpty

/-- Whether a text writes a point in time. -/
def isTimestamp (cs : List Char) : Bool :=
  match WrittenDate.ofText? cs with
  | some w => w.time.isSome || w.padded
  | none => false

/-- The words for nothing. -/
def nullWords : List String := ["~", "null", "Null", "NULL"]

/-- The words for the truth values. -/
def boolWords : List String :=
  ["yes", "Yes", "YES", "no", "No", "NO", "true", "True", "TRUE", "false", "False", "FALSE", "on",
    "On", "ON", "off", "Off", "OFF"]

/-- The type that the text of a plain scalar shows. A line break at the very end does not count. -/
def ofPlain (text : String) : Tag :=
  let cs := text.toList
  let cs := if cs.getLast? = some '\n' then cs.dropLast else cs
  let word := String.ofList cs
  if text.isEmpty || nullWords.contains word then null
  else if boolWords.contains word then bool
  else if isFloat cs then float
  else if isInteger cs then int
  else if word = "<<" then merge
  else if isTimestamp cs then timestamp
  else if word = "=" then value
  else str

end Tag

end ApiDoc.Yaml
