import ApiDoc.Number.Decimal

/-!
# Numbers of a document

A number is an integer of any size or a binary floating-point number, and stays what it is: `1`
and `1.0` are different numbers with the same value. The order is exact for every mix of the two.
-/

namespace ApiDoc

/-- An integer or a floating-point number. -/
inductive Number where
  | int (n : Int)
  | float (x : Binary64)
  deriving DecidableEq, Repr

namespace Number

/-- How two numbers stand to each other; no answer when one is not a number. -/
def compare : Number → Number → Option Ordering
  | int a, int b => some (Ord.compare a b)
  | int a, float y => (y.compareInt a).map Ordering.swap
  | float x, int b => x.compareInt b
  | float x, float y => x.compare y

/-- Whether the first number is the greater one. -/
def exceeds (a b : Number) : Bool := a.compare b == some .gt

/-- Whether two numbers have the same value. -/
def sameValue (a b : Number) : Bool := a.compare b == some .eq

/-- Whether two numbers are the same: they have the same value, or are one object that is not a
number. -/
def isSame (a b : Number) : Bool := a == b || a.sameValue b

/-- Whether an integer has 64 bits. -/
def isWord (n : Int) : Bool := -0x8000000000000000 ≤ n && n < 0x8000000000000000

/-- A number as a fraction, unless it is not finite. -/
def toRatio? : Number → Option (Int × Nat)
  | int n => some (n, 1)
  | float x => x.toRatio?

/-- Whether a number is a multiple of another one. With a floating-point unit the rounded quotient
has to be an integer, as long as it is finite. What is not finite is a multiple of everything. -/
def isMultipleOf (a unit : Number) : Bool :=
  match a.toRatio?, unit.toRatio? with
  | some (n, d), some (m, e) =>
    let dividend := if 0 ≤ m then n * e else -(n * e)
    let divisor := d * m.natAbs
    let exact := dividend % divisor == 0
    match unit, Binary64.ofSignedRatio dividend divisor with
    | int _, _ | _, .infinity _ => exact
    | float _, q => q.toInt?.isSome
  | _, _ => true

/-- The least number without a decimal text, of 4301 digits. -/
def leastLong : Nat := Nat.pow 10 4300

/-- Whether an integer is written in decimal digits: it must not be too long. -/
def hasDecimalText (n : Int) : Bool := n.natAbs.log2 < 14280 || n.natAbs < leastLong

/-- Whether a number is written in decimal digits. -/
def hasText : Number → Bool
  | int n => hasDecimalText n
  | float _ => true

/-- The sentence about an integer that is too long for decimal digits. -/
def tooLong : String :=
  "Exceeds the limit (4300 digits) for integer string conversion; "
    ++ "use sys.set_int_max_str_digits() to increase the limit"

/-- The text of a number: an integer has no point, a floating-point number always has one or an
exponent. -/
def text : Number → String
  | int n => toString n
  | float x => x.text

end Number

end ApiDoc
