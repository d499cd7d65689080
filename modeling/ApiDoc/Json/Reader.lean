import ApiDoc.Text.Digits
import ApiDoc.Value.Basic

/-!
# Reading JSON text

`Json.read?` gives the value of a JSON text. The order of the entries of an object is kept; of
several entries with one key the last counts, at the place of the first. A number with a point or
an exponent is a floating-point number, any other is an integer of whatever size.

Each step works on the characters that are left and returns what it leaves of them.
-/

namespace ApiDoc.Json

/-- What a step reads and the characters it leaves. -/
abbrev Step (α : Type) := List Char → Option (α × List Char)

/-- The characters after white space. -/
def skipSpace : List Char → List Char
  | c :: cs => if c = ' ' ∨ c = '\n' ∨ c = '\t' ∨ c = '\r' then skipSpace cs else c :: cs
  | [] => []

/-- The number that four hexadecimal digits give. -/
def unit? (a b c d : Char) : Option Nat := do
  let high := (← Text.hexValue? a) * 16 + (← Text.hexValue? b)
  return (high * 16 + (← Text.hexValue? c)) * 16 + (← Text.hexValue? d)

/-- The character that a letter stands for after a backslash. -/
def escape? (c : Char) : Option Char :=
  if c = '"' ∨ c = '\\' ∨ c = '/' then some c
  else if c = 'n' then some '\n'
  else if c = 't' then some '\t'
  else if c = 'r' then some '\r'
  else if c = 'b' then some '\x08'
  else if c = 'f' then some '\x0c'
  else none

/-- The rest of a string after its opening quote. Two units of a pair make one character. -/
def readChars : Step (List Char)
  | [] => none
  | '"' :: cs => some ([], cs)
  | '\\' :: 'u' :: a :: b :: c :: d :: '\\' :: 'u' :: a' :: b' :: c' :: d' :: cs => do
    let high ← unit? a b c d
    let low ← unit? a' b' c' d'
    if 0xD800 ≤ high ∧ high < 0xDC00 ∧ 0xDC00 ≤ low ∧ low < 0xE000 then
      let (rest, left) ← readChars cs
      return (Char.ofNat (0x10000 + (high - 0xD800) * 0x400 + (low - 0xDC00)) :: rest, left)
    else
      -- The second unit is no partner of the first and is read again on its own.
      let (rest, left) ← readChars ('\\' :: 'u' :: a' :: b' :: c' :: d' :: cs)
      return (Char.ofNat high :: rest, left)
  | '\\' :: 'u' :: a :: b :: c :: d :: cs => do
    let n ← unit? a b c d
    let (rest, left) ← readChars cs
    return (Char.ofNat n :: rest, left)
  | '\\' :: c :: cs => do
    let e ← escape? c
    let (rest, left) ← readChars cs
    return (e :: rest, left)
  | c :: cs => do
    if c.toNat < 0x20 then none
    let (rest, left) ← readChars cs
    return (c :: rest, left)

/-- The digits at the front of a text, their value and the rest. -/
def readDigits (cs : List Char) : Nat × Nat × List Char :=
  let ds := cs.takeWhile Char.isDigit
  (Text.decimal ds, ds.length, cs.dropWhile Char.isDigit)

/-- The exponent of a number, when there is one. -/
def readExponent (cs : List Char) : Option Int × List Char :=
  match cs with
  | e :: rest =>
    if e = 'e' ∨ e = 'E' then
      let (negative, digits) := match rest with
        | '-' :: r => (true, r)
        | '+' :: r => (false, r)
        | r => (false, r)
      match readDigits digits with
      | (_, 0, _) => (none, cs)
      | (n, _, left) => (some (if negative then -(n : Int) else n), left)
    else (none, cs)
  | [] => (none, cs)

/-- The value and the number of the digits behind a point, when there are any. -/
def readFraction (cs : List Char) : Nat × Nat × List Char :=
  match cs with
  | '.' :: r =>
    match readDigits r with
    | (_, 0, _) => (0, 0, cs)
    | (f, n, l) => (f, n, l)
  | _ => (0, 0, cs)

/-- A number without its sign, which is `negative` or not. -/
def readMagnitude (negative : Bool) (cs : List Char) : Option (Value × List Char) :=
  match readDigits cs with
  | (_, 0, _) => none
  | (whole, _, left) =>
    let (fraction, places, left) := readFraction left
    let (exponent, left) := readExponent left
    if places = 0 ∧ exponent = none then
      some (.int (if negative then -(whole : Int) else whole), left)
    else
      let x : Decimal :=
        { negative, digits := whole * Decimal.tens places + fraction,
          exponent := exponent.getD 0 - places }
      some (.float x.toBinary64, left)

def readNumber (cs : List Char) : Option (Value × List Char) :=
  match cs with
  | '-' :: r => readMagnitude true r
  | r => readMagnitude false r

/-- The characters after a word that the text begins with. -/
def afterWord (word cs : List Char) : Option (List Char) :=
  if word.isPrefixOf cs then some (cs.drop word.length) else none

mutual

/-- A value. Every call reads at least one character, so `fuel` above the length of the text is
enough. -/
def readValue (fuel : Nat) (cs : List Char) : Option (Value × List Char) :=
  match fuel with
  | 0 => none
  | fuel + 1 =>
    match skipSpace cs with
    | '"' :: rest => (readChars rest).map fun (s, left) => (.str (.ofList s), left)
    | '[' :: rest =>
      match skipSpace rest with
      | ']' :: left => some (.listOf [], left)
      | left => (readItems fuel left).map fun (items, left) => (.listOf items, left)
    | '\x7b' :: rest =>
      match skipSpace rest with
      | '\x7d' :: left => some (.map .none [], left)
      | left => (readEntries fuel left).map fun (es, left) => (.map .none (Entries.ofList es), left)
    | 't' :: rest => (afterWord ['r', 'u', 'e'] rest).map fun left => (.bool true, left)
    | 'f' :: rest => (afterWord ['a', 'l', 's', 'e'] rest).map fun left => (.bool false, left)
    | 'n' :: rest => (afterWord ['u', 'l', 'l'] rest).map fun left => (.null, left)
    | rest => readNumber rest

/-- The items of a list up to its closing bracket. -/
def readItems (fuel : Nat) (cs : List Char) : Option (List Value × List Char) :=
  match fuel with
  | 0 => none
  | fuel + 1 => do
    let (v, left) ← readValue fuel cs
    match skipSpace left with
    | ',' :: left =>
      let (vs, left) ← readItems fuel left
      return (v :: vs, left)
    | ']' :: left => return ([v], left)
    | _ => none

/-- The entries of an object up to its closing brace. -/
def readEntries (fuel : Nat) (cs : List Char) : Option (List (Value × Value) × List Char) :=
  match fuel with
  | 0 => none
  | fuel + 1 => do
    match skipSpace cs with
    | '"' :: left =>
      let (key, left) ← readChars left
      match skipSpace left with
      | ':' :: left =>
        let (v, left) ← readValue fuel left
        match skipSpace left with
        | ',' :: left =>
          let (es, left) ← readEntries fuel left
          return ((.str (.ofList key), v) :: es, left)
        | '\x7d' :: left => return ([(.str (.ofList key), v)], left)
        | _ => none
      | _ => none
    | _ => none

end

def read? (s : String) : Option Value :=
  let cs := s.toList
  match readValue (cs.length + 1) cs with
  | some (v, left) => if (skipSpace left).isEmpty then some v else none
  | none => none

end ApiDoc.Json
