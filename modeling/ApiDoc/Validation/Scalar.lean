import ApiDoc.Text.Digits
import ApiDoc.Text.Property.Blank
import ApiDoc.Text.Segments
import ApiDoc.Validation.Checked

/-!
# Checking scalars

Text, truth values and numbers are taken in several spellings.

- **Text:** a text, or a byte string that is UTF-8.
- **Truth values:** `true` and `false`, the numbers 0 and 1, and the words `true`, `false`, `yes`,
  `no`, `on`, `off`, `t`, `f`, `y`, `n`, `1` and `0` in any letter case.
- **Numbers:** a number is kept as it is, a truth value is 0 or 1, and a text is read as an integer
  or else as a floating-point number, with white space around it and single underscores between
  digits.
-/

namespace ApiDoc

/-! ## Numbers in text -/

namespace Numeral

/-- Two underscores in a row. -/
def hasDoubleUnderscore : List Char → Bool
  | '_' :: '_' :: _ => true
  | _ :: cs => hasDoubleUnderscore cs
  | [] => false

/-- The text without its underscores, unless one stands first or last or beside another. -/
def withoutUnderscores? (cs : List Char) : Option (List Char) :=
  if cs.head? = some '_' ∨ cs.getLast? = some '_' ∨ hasDoubleUnderscore cs then none
  else some (cs.filter (· ≠ '_'))

/-- The sign of a text and what follows it. -/
def splitSign : List Char → Bool × List Char
  | '-' :: cs => (true, cs)
  | '+' :: cs => (false, cs)
  | cs => (false, cs)

/-- The text before a point that only zeros follow, at least one. -/
def withoutZeroFraction (cs : List Char) : List Char :=
  match cs.span (· ≠ '.') with
  | (whole, '.' :: zeros) =>
    if zeros ≠ [] ∧ zeros.all (· = '0') then whole else cs
  | _ => cs

/-- What reading an integer comes to. -/
inductive Reading where
  | integer (n : Int)
  /-- A run of digits is longer than any integer may be. -/
  | tooLong
  | malformed
  deriving DecidableEq, Repr

/-- The greatest length of an integer in text, its sign counted. -/
def maxLength : Nat := 4300

/-- Text behind leading zeros and underscores, of which `last` was passed last: from the first other
digit on, or from a minus sign on. The zero before a point or at the end stays. -/
def behindZeros? (last : Char) : List Char → Option (List Char)
  | [] => some [last]
  | c :: cs =>
    if c = '0' || c = '_' then behindZeros? c cs
    else if c.isDigit || c = '-' then some (c :: cs)
    else if c = '.' then some (last :: c :: cs)
    else none

/-- Text that begins with a digit, without leading zeros. -/
def withoutLeadingZeros? : List Char → Option (List Char)
  | [] => none
  | c :: cs => if c = '0' then behindZeros? c cs else if c.isDigit then some (c :: cs) else none

/-- Reads a minus sign or none, and digits, of which the first is no zero unless it stands alone. -/
def readDigits (cs : List Char) : Reading :=
  let (negative, body) := match cs with
    | '-' :: ds => (true, ds)
    | ds => (false, ds)
  let digits := body.takeWhile Char.isDigit
  let length := if negative then digits.length + 1 else digits.length
  if digits = [] || (digits.head? = some '0' && 1 < digits.length) then .malformed
  else if maxLength < length then .tooLong
  else if digits = body then
    let n : Int := Text.decimal digits
    .integer (if negative then -n else n)
  else .malformed

/-- Reads an integer in text: a sign, digits with single underscores, and perhaps a point and zeros.
Among leading zeros underscores are free, and a minus sign can follow them. -/
def readInteger (s : List Char) : Reading :=
  let (negative, body) := splitSign (Text.trim Text.isWhiteSpace s)
  match withoutLeadingZeros? body with
  | none => .malformed
  | some cs =>
    let cs := withoutZeroFraction cs
    let cs := (withoutUnderscores? cs).getD cs
    readDigits (if negative then '-' :: cs else cs)

/-- The exponent that follows a number, if any, with the characters after it. -/
def exponent? : List Char → Option Int
  | [] => some 0
  | e :: cs =>
    let (negative, digits) := splitSign cs
    if (e = 'e' ∨ e = 'E') ∧ digits ≠ [] ∧ digits.all Char.isDigit then
      let n : Int := Text.decimal digits
      some (if negative then -n else n)
    else none

/-- Reads a floating-point number without white space or underscores: a sign, then the name of an
infinity or of no number, or digits with a point among them and perhaps an exponent. -/
def plainFloat? (cs : List Char) : Option Binary64 := do
  let (negative, body) := splitSign cs
  let name := String.ofList (body.map Char.toLower)
  if name = "inf" ∨ name = "infinity" then return .infinity negative
  if name = "nan" then return .nan 0
  let whole := body.takeWhile Char.isDigit
  let rest := body.dropWhile Char.isDigit
  let (fraction, rest) := match rest with
    | '.' :: r => (r.takeWhile Char.isDigit, r.dropWhile Char.isDigit)
    | r => ([], r)
  if whole = [] ∧ fraction = [] then none
  else
    let exponent ← exponent? rest
    let x : Decimal :=
      { negative, digits := Text.decimal (whole ++ fraction),
        exponent := exponent - fraction.length }
    return x.toBinary64

/-- Reads a floating-point number, with white space around it or with single underscores in it. -/
def float? (s : List Char) : Option Binary64 :=
  match plainFloat? (Text.trim Text.isWhiteSpace s) with
  | some x => some x
  | none => (withoutUnderscores? s).bind plainFloat?

end Numeral

/-! ## Scalars -/

namespace Checked

/-- The text of a byte string that is UTF-8. -/
def decodeBytes? (bs : List UInt8) : Option String := String.fromUTF8? ⟨bs.toArray⟩

/-- A text or a byte string as text, or an issue of a kind; `none` for any other value. -/
def asText? (kind : IssueKind) (v : Value) : Option (Checked String) :=
  match v with
  | .str s => some (valid s)
  | .bytes bs =>
    match decodeBytes? bs with
    | some s => some (valid s)
    | none => some (issue kind v)
  | .brokenText _ => some (issue kind v)
  | _ => none

def text (v : Value) : Checked String := (asText? .stringUnicode v).getD (issue .stringType v)

/-- The words that stand for a truth value. -/
def boolWord? (s : String) : Option Bool :=
  let word := s.toLower
  if word ∈ ["0", "off", "f", "false", "n", "no"] then some false
  else if word ∈ ["1", "on", "t", "true", "y", "yes"] then some true
  else none

/-- The truth value that a number stands for: `none` when it has a fraction or is out of range. -/
def boolNumber? (v : Value) : Number → Option (Checked Bool)
  | .int n =>
    if n = 0 then some (valid false)
    else if n = 1 then some (valid true)
    else if Number.isWord n then some (issue .boolParsing v)
    else none
  | .float x =>
    match x.toInt? with
    | some n =>
      if n = 0 then some (valid false)
      else if n = 1 then some (valid true)
      else if Number.isWord n && Number.isWord (-n) then some (issue .boolParsing v)
      else none
    | none => none

def bool (v : Value) : Checked Bool :=
  match v with
  | .bool b => valid b
  | .number n => (boolNumber? v n).getD (issue .boolType v)
  | v =>
    match asText? .boolParsing v with
    | some s => s.andThen fun s => ((boolWord? s).map valid).getD (issue .boolParsing v)
    | none => issue .boolType v

/-- The two issues of an input that is neither kind of number. -/
def notNumber {α : Type} (v : Value) (integer float : IssueKind) : Checked α :=
  invalid ⟨[.name "int"], integer, v⟩ [⟨[.name "float"], float, v⟩]

/-- A number: an integer where the input allows it, otherwise a floating-point number. -/
def number (v : Value) : Checked Number :=
  match v with
  | .number n => valid n
  | .bool b => valid (.int (if b then 1 else 0))
  | v =>
    match asText? .numberParsing v with
    | some (valid s) =>
      let cs := s.toList
      match Numeral.readInteger cs, Numeral.float? cs with
      | .integer n, _ => valid (.int n)
      | _, some x => valid (.float x)
      | .tooLong, none => notNumber v .integerSize .numberParsing
      | .malformed, none => notNumber v .integerParsing .numberParsing
    | some _ => notNumber v .integerParsing .numberParsing
    | none => notNumber v .integerType .numberType

/-- A value of any kind. -/
def any (v : Value) : Checked Value := valid v

/-- A value that may be absent. -/
def optional {α : Type} (read : Value → Checked α) (v : Value) : Checked (Option α) :=
  match v with
  | .null => valid none
  | v => (read v).map some

end Checked

end ApiDoc
