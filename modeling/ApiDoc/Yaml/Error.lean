import ApiDoc.Text.Quoted

/-!
# What can be wrong with a YAML text

A `SyntaxError` means that the text is not a YAML document that holds one value of known types. A
`ScalarError` means that a scalar does not fit the type that it is said to have.
-/

namespace ApiDoc.Yaml

/-- Why a text is not a document. -/
inductive SyntaxError where
  /-- A character that no text may hold. -/
  | character
  /-- Nothing starts with the character here. -/
  | noToken
  /-- An entry or a key where none can stand. -/
  | misplacedIndicator
  /-- A key that must have a colon has none. -/
  | missingColon
  | directive
  | name
  | tag
  /-- A quoted scalar without an end, or with an unknown escape. -/
  | quoted
  /-- The head of a block scalar. -/
  | blockHead
  /-- A token where another one has to stand. -/
  | unexpectedToken
  | undefinedAlias
  | duplicateAnchor
  | severalDocuments
  /-- A node that its tag does not fit. -/
  | unfitNode
  /-- A list or a mapping as a key. -/
  | unhashableKey
  deriving DecidableEq, Repr

/-- The parts of a point in time that have a range. -/
inductive DatePart where
  | year (n : Nat)
  | month
  | day
  | hour
  | minute
  | second
  deriving DecidableEq, Repr

/-- The sentence about a part out of its range. -/
def DatePart.message : DatePart → String
  | year n => s!"year {n} is out of range"
  | month => "month must be in 1..12"
  | day => "day is out of range for month"
  | hour => "hour must be in 0..23"
  | minute => "minute must be in 0..59"
  | second => "second must be in 0..59"

/-- Why a scalar has no value. -/
inductive ScalarError where
  | integer (base : Nat) (text : List Char)
  | float (text : List Char)
  /-- A number without any character. -/
  | emptyNumber
  /-- A decimal integer with too many digits. -/
  | tooManyDigits (count : Nat)
  /-- A digit counts more than a floating-point number can. -/
  | beyondRange
  | truthValue (word : List Char)
  | timestamp
  | range (part : DatePart)
  /-- A distance to universal time of a day or more, as days and seconds. -/
  | offset (days : Int) (seconds : Nat)
  /-- The code of a character beyond the last one. -/
  | code (n : Nat)
  deriving DecidableEq, Repr

namespace ScalarError

/-- The length of time that days and seconds make, as the call that makes it. -/
def lengthText (days : Int) (seconds : Nat) : String :=
  let parts :=
    (if days = 0 then [] else [s!"days={days}"])
      ++ (if seconds = 0 then [] else [s!"seconds={seconds}"])
  let inner := ", ".intercalate parts
  s!"datetime.timedelta({inner})"

/-- The sentence for a scalar without a value. -/
def message : ScalarError → String
  | integer base text =>
    let shown := String.ofList ((Text.quotedChars text).take 200)
    s!"invalid literal for int() with base {base}: {shown}"
  | float text => "could not convert string to float: " ++ .ofList (Text.quotedChars text)
  | emptyNumber => "string index out of range"
  | tooManyDigits count =>
    "Exceeds the limit (4300 digits) for integer string conversion: "
      ++ s!"value has {count} digits; use sys.set_int_max_str_digits() to increase the limit"
  | beyondRange => "int too large to convert to float"
  | truthValue word => .ofList (Text.quotedChars word)
  | timestamp => "'NoneType' object has no attribute 'groupdict'"
  | range part => part.message
  | offset days seconds =>
    let length := lengthText days seconds
    "offset must be a timedelta strictly between -timedelta(hours=24) and timedelta(hours=24), "
      ++ s!"not {length}."
  | code n =>
    if n < 0x80000000 then "chr() arg not in range(0x110000)"
    else "Python int too large to convert to C int"

end ScalarError

/-- What is wrong with a text. -/
inductive Error where
  | malformed (e : SyntaxError)
  | scalar (e : ScalarError)
  deriving DecidableEq, Repr

end ApiDoc.Yaml
