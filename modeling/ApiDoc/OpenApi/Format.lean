import ApiDoc.OpenApi.Finding
import ApiDoc.Pattern.Reader
import ApiDoc.Text.Base64

/-!
# Formats of values

A format narrows what a type allows. Formats of text say nothing about other values, and the
integer formats nothing about anything but integers. An unknown format allows everything. Some texts
stop the check: those that `byte` or `regex` cannot make sense of.
-/

namespace ApiDoc.OpenApi.Format

/-- The number that a run of ASCII digits writes, when it has the right length. -/
def digits? (length : Nat) (cs : List Char) : Option Nat :=
  if cs.length = length ∧ cs.all Char.isDigit then some (Text.decimal cs) else none

/-- Whether text is a day, `2020-01-31`. -/
def isDate (cs : List Char) : Bool :=
  match (Text.pieces '-' cs) with
  | [y, m, d] =>
    match digits? 4 y, digits? 2 m, digits? 2 d with
    | some y, some m, some d =>
      0 < y && 1 ≤ m && m ≤ 12 && 1 ≤ d && d ≤ Date.daysIn y m
    | _, _, _ => false
  | _ => false

/-- Whether text is a time of day with hours and minutes, `23:59`. -/
def isHourMinute (cs : List Char) : Bool :=
  match Text.pieces ':' cs with
  | [h, m] =>
    match digits? 2 h, digits? 2 m with
    | some h, some m => h < 24 && m < 60
    | _, _ => false
  | _ => false

/-- Whether text is what follows the minutes of a point in time: seconds, maybe a fraction, and the
offset. -/
def isSecondsAndZone (cs : List Char) : Bool :=
  match digits? 2 (cs.take 2) with
  | some s =>
    let zone := match cs.drop 2 with
      | '.' :: d :: ds => if d.isDigit then ds.dropWhile Char.isDigit else ['.']
      | cs => cs
    s < 60 &&
      match zone with
      | ['Z'] => true
      | c :: cs => (c = '+' || c = '-') && isHourMinute cs
      | [] => false
  | none => false

/-- Whether text is a point in time, `2020-01-31T23:59:00Z`. -/
def isDateTime (cs : List Char) : Bool :=
  let cs := cs.map Char.toUpper
  let cs := if cs.getLast? = some '\n' then cs.dropLast else cs
  isDate (cs.take 10) && cs[10]? = some 'T' && isHourMinute ((cs.drop 11).take 5)
    && cs[16]? = some ':' && isSecondsAndZone (cs.drop 17)

/-- Whether text is four bytes in decimal, `127.0.0.1`. -/
def isAddress (cs : List Char) : Bool :=
  let parts := Text.pieces '.' cs
  parts.length = 4 && parts.all fun p =>
    match (digits? p.length p) with
    | some n => 1 ≤ p.length && p.length ≤ 3 && n < 256 && (p.length = 1 || p.head? ≠ some '0')
    | none => false

/-- Whether text is a group of an address of 128 bits. -/
def isGroup (cs : List Char) : Bool := cs ≠ [] && cs.length ≤ 4 && cs.all Text.isHex

/-- Whether groups make an address of 128 bits. An empty group inside stands for one or more groups
of zeros; it can be there once, and only beside it the first or the last group can be empty. -/
def areGroups (groups : List (List Char)) : Bool :=
  let inner := groups.tail.dropLast
  let before := groups.takeWhile (· ≠ [])
  let after := (groups.reverse.takeWhile (· ≠ [])).reverse
  match inner.count [] with
  | 0 => groups.length = 8 && groups.all isGroup
  | 1 =>
    let open_ := groups.head? = some []
    let ends := groups.getLast? = some []
    let high := if open_ then [] else before
    let low := if ends then [] else after
    let empty := 1 + (if open_ then 1 else 0) + (if ends then 1 else 0)
    (high ++ low).all isGroup && high.length + low.length + empty = groups.length
      && high.length + low.length < 8
  | _ => false

/-- Whether text is an address of 128 bits, `::1`. Its last two groups can be written as four
bytes. -/
def isLongAddress (cs : List Char) : Bool :=
  let groups := Text.pieces ':' cs
  let tail := groups.getLast?.getD []
  let written :=
    if tail.contains '.' then groups.dropLast ++ [['0'], ['0']] else groups
  3 ≤ groups.length && (!tail.contains '.' || isAddress tail) && written.length ≤ 9
    && areGroups written

/-- A text without the occurrences of a word. -/
def without (word : List Char) (cs : List Char) : List Char := go cs cs.length
where
  /-- Looks for the word at every place. -/
  go : List Char → Nat → List Char
    | [], _ | _, 0 => []
    | c :: cs, n + 1 =>
      if word.isPrefixOf (c :: cs) then go ((c :: cs).drop word.length) n else c :: go cs n

/-- Whether text is a number in hexadecimal digits of any script, with white space around it, a
sign, a mark of its base, and single underscores. -/
def isHexNumber (cs : List Char) : Bool :=
  let body := match Text.trim Text.isWhiteSpace cs with
    | '-' :: r | '+' :: r => r
    | r => r
  let digits := match body with
    | '0' :: x :: '_' :: r => if x.toLower = 'x' then r else body
    | '0' :: x :: r => if x.toLower = 'x' then r else body
    | r => r
  (Text.pieces '_' digits).all fun g => g ≠ [] && g.all fun c => Text.isHex c || Text.isDecimal c

/-- Whether text is an identifier of 128 bits. A name in front of it, braces around it and hyphens
do not count, but the four usual places have hyphens. -/
def isIdentifier (cs : List Char) : Bool :=
  let bare := without "uuid:".toList (without "urn:".toList cs)
  let digits := (Text.trim (· ∈ ['\x7b', '\x7d']) bare).filter (· ≠ '-')
  digits.length = 32 && isHexNumber digits && [8, 13, 18, 23].all fun i => cs[i]? = some '-'

/-- Whether text is one digit of any script, or two of which the first is at most `most`. -/
def isClock (most : Char) : List Char → Bool
  | [c] => Text.isDecimal c
  | [c, d] => '0' ≤ c && c ≤ most && Text.isDecimal d
  | _ => false

def isHour : List Char → Bool
  | ['2', d] => '0' ≤ d && d ≤ '3'
  | cs => isClock '1' cs

/-- Whether text is a time of day, `23:59:00`. -/
def isTime (cs : List Char) : Bool :=
  match Text.pieces ':' cs with
  | [h, m, s] => isHour h && isClock '5' m && isClock '5' s
  | _ => false

/-- What is wrong with a text in base 64: it has to be written as bytes are. -/
def byteFindings (cs : List Char) : List Finding :=
  match Text.EncodingError.find? .ascii (cs.map Char.toNat) with
  | some e => [.obstacle (.encoding e)]
  | none => Finding.require ((Text.Base64.decode? cs).any fun bs => Text.Base64.encode bs = cs)

/-- What is wrong with a text as a regular expression. -/
def patternFindings (cs : List Char) : List Finding :=
  match Pattern.check cs with
  | .ok () => []
  | .error (.refused why) => [.obstacle (.pattern cs (.refused why))]
  | .error _ => [.violation]

/-- What is wrong with a text of a format. -/
def textFindings (format : String) (cs : List Char) : List Finding :=
  match format with
  | "date" => Finding.require (isDate cs)
  | "date-time" => Finding.require (isDateTime cs)
  | "time" => Finding.require (isTime cs)
  | "email" | "idn-email" => Finding.require (cs.contains '@')
  | "ipv4" => Finding.require (isAddress cs)
  | "ipv6" => Finding.require (isLongAddress cs)
  | "uuid" => Finding.require (isIdentifier cs)
  | "byte" => byteFindings cs
  | "regex" => patternFindings cs
  | _ => []

def allowsInteger (format : String) (n : Int) : Bool :=
  match format with
  | "int32" => -0x80000000 ≤ n && n < 0x80000000
  | "int64" => Number.isWord n
  | _ => true

/-- What is wrong with a value of a format. -/
def findings (format : String) : Value → List Finding
  | .str s => textFindings format s.toList
  | .number (.int n) => Finding.require (allowsInteger format n)
  | _ => []

end ApiDoc.OpenApi.Format
