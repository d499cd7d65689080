import ApiDoc.Text.Digits
import ApiDoc.Text.Property.Digit
import ApiDoc.Text.Property.Lowercase
import ApiDoc.Validation.Scalar
import ApiDoc.Yaml.Character
import ApiDoc.Yaml.Error

/-!
# Numbers of YAML

Numbers can have underscores anywhere. Integers are decimal, binary after `0b`, hexadecimal after
`0x` and octal after `0`; both kinds of numbers can be written in base 60, with colons between the
digits.
-/

namespace ApiDoc.Yaml

/-- A decimal digit of any script as the usual one; any other character itself. -/
def usualDigit (c : Char) : Char :=
  match Text.digitValue? c with
  | some d => Char.ofNat (0x30 + d)
  | none => c

/-- The letter that announces a base. -/
def baseLetter? : Nat → Option Char
  | 2 => some 'b'
  | 8 => some 'o'
  | 16 => some 'x'
  | _ => none

/-- The digits without an announcement of their base. -/
def withoutBaseMark (base : Nat) : List Char → List Char
  | '0' :: c :: cs => if baseLetter? base = some c.toLower then cs else '0' :: c :: cs
  | cs => cs

/-- The value of digits of a base, of which there has to be one. -/
def digitsValue? (base : Nat) (cs : List Char) : Option Nat := do
  let ds ← cs.mapM fun c => (Text.hexValue? c).filter (· < base)
  if ds.isEmpty then none else some (ds.foldl (fun n d => n * base + d) 0)

/-- Reads an integer in a base: white space around it and a sign are allowed. The length of a
decimal one is limited. -/
def readDigits (base : Nat) (text : List Char) : Except ScalarError Int :=
  let (negative, body) :=
    Numeral.splitSign ((Text.trim Text.isWhiteSpace text).map usualDigit)
  let count := (body.takeWhile Char.isDigit).length
  if base = 10 ∧ Numeral.maxLength < count then .error (.tooManyDigits count)
  else
    match digitsValue? base (withoutBaseMark base body) with
    | some n => .ok (if negative then -(n : Int) else n)
    | none => .error (.integer base text)

/-- Reads a floating-point number in plain decimal form. -/
def readDecimal (text : List Char) : Except ScalarError Binary64 :=
  match Numeral.plainFloat? ((Text.trim Text.isWhiteSpace text).map usualDigit) with
  | some x => .ok x
  | none => .error (.float text)

/-- A number without underscores, parted from its sign. -/
def splitNumber (text : List Char) : Except ScalarError (Bool × List Char) :=
  match text.filter (· ≠ '_') with
  | [] => .error .emptyNumber
  | cs => .ok (Numeral.splitSign cs)

/-- The integer that a text without sign stands for. -/
def readMagnitude (cs : List Char) : Except ScalarError Int :=
  match cs with
  | [] => .error .emptyNumber
  | '0' :: 'b' :: ds => readDigits 2 ds
  | '0' :: 'x' :: ds => readDigits 16 ds
  | ['0'] => .ok 0
  | '0' :: _ => readDigits 8 cs
  | _ =>
    if cs.contains ':' then do
      let parts ← (Text.pieces ':' cs).mapM (readDigits 10)
      return parts.foldl (fun n d => n * 60 + d) 0
    else readDigits 10 cs

def readInteger (text : List Char) : Except ScalarError Int := do
  let (negative, cs) ← splitNumber text
  let n ← readMagnitude cs
  return if negative then -n else n

/-- The sum of digits in base 60, the last one first; `base` is what the first one counts, which has
to be within the range of floating-point numbers. -/
def sumSixties (base : Nat) (sum : Binary64) : List Binary64 → Except ScalarError Binary64
  | [] => .ok sum
  | d :: ds =>
    match Binary64.ofInt base with
    | .infinity _ => .error .beyondRange
    | b => sumSixties (base * 60) (sum.add (d.mul b)) ds

/-- The floating-point number that a text in lower case without sign stands for. What is written
`.nan` is one object wherever it stands; other spellings give an object of the given origin. -/
def readFloatMagnitude (origin : Nat) (cs : List Char) : Except ScalarError Binary64 :=
  if cs = ".inf".toList then .ok (.infinity false)
  else if cs = ".nan".toList then .ok (.nan 0)
  else do
    let x ←
      if cs.contains ':' then do
        let parts ← (Text.pieces ':' cs).mapM readDecimal
        sumSixties 1 (.zero false) parts.reverse
      else readDecimal cs
    return match x with
      | .nan _ => .nan origin
      | x => x

def readFloat (origin : Nat) (text : String) : Except ScalarError Binary64 := do
  let (negative, cs) ← splitNumber (Text.lower text).toList
  let x ← readFloatMagnitude origin cs
  return if negative then x.neg else x

end ApiDoc.Yaml
