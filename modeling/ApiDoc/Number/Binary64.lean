/-!
# Binary floating-point numbers

A number of the 64-bit binary format, kept exactly: not a number, an infinity, or a mantissa
times a power of two. What is not a number is like nothing but itself, so it has an origin: the same
origin means the same object.

**Rounding.** `Binary64.ofRatio` rounds a quotient of natural numbers to the nearest number of
the format, a tie to the even mantissa. All arithmetic before the rounding is on `Nat`.

**Order.** `Binary64.compareInt` and `Binary64.compare` compare exactly, without a detour through
another format; they give no answer for a value that is not a number.
-/

namespace ApiDoc

/-- A number of the 64-bit binary format. `finite s m e` is `m · 2^e`, negated when `s` holds. -/
inductive Binary64 where
  | nan (origin : Nat)
  | infinity (negative : Bool)
  | finite (negative : Bool) (mantissa : Nat) (exponent : Int)
  deriving DecidableEq, Repr

namespace Binary64

/-- The least exponent of the format. -/
def minExponent : Int := -1074

/-- The greatest exponent of the format. -/
def maxExponent : Int := 971

/-- Zero, with the sign that is asked for. -/
def zero (negative : Bool) : Binary64 := finite negative 0 minExponent

/-- The least mantissa of 53 bits. -/
def leastMantissa : Nat := 0x10000000000000

/-! ## Rounding -/

/-- The quotient of `n` by `d`, rounded to the nearest natural number, a tie to the even one. -/
def roundQuotient (n d : Nat) : Nat :=
  let q := n / d
  let r := n % d
  if 2 * r < d then q else if d < 2 * r then q + 1 else q + q % 2

/-- `n / d` divided by `2^e`, as a fraction again. -/
def scaled (n d : Nat) (e : Int) : Nat × Nat :=
  if 0 ≤ e then (n, d <<< e.toNat) else (n <<< (-e).toNat, d)

/-- The exponent at which `n / d` has a mantissa of 53 bits, or the least one of the format. -/
def targetExponent (n d : Nat) : Int :=
  let guess : Int := (Nat.log2 n : Int) - Nat.log2 d - 52
  let (a, b) := scaled n d guess
  max minExponent (if a / b < leastMantissa then guess - 1 else guess)

/-- The number nearest to `n / d`. -/
def ofRatio (negative : Bool) (n d : Nat) : Binary64 :=
  if n = 0 then zero negative
  else
    let e := targetExponent n d
    let (a, b) := scaled n d e
    let m := roundQuotient a b
    let (m, e) := if m = 2 * leastMantissa then (leastMantissa, e + 1) else (m, e)
    if maxExponent < e then infinity negative
    else if m = 0 then zero negative
    else finite negative m e

/-- The number nearest to an integer. -/
def ofInt (n : Int) : Binary64 := ofRatio (decide (n < 0)) n.natAbs 1

/-! ## Sums and products -/

/-- A finite number as a fraction: its signed numerator and its denominator. -/
def toRatio? : Binary64 → Option (Int × Nat)
  | finite s m e =>
    let (a, b) := scaled m 1 (-e)
    some (if s then -(a : Int) else a, b)
  | _ => none

/-- The number nearest to a signed fraction. -/
def ofSignedRatio (n : Int) (d : Nat) : Binary64 := ofRatio (decide (n < 0)) n.natAbs d

/-- The sign bit. -/
def isNegative : Binary64 → Bool
  | nan _ => false
  | infinity s => s
  | finite s _ _ => s

/-- The number with its sign turned. -/
def neg : Binary64 → Binary64
  | nan o => nan o
  | infinity s => infinity (!s)
  | finite s m e => finite (!s) m e

/-- The rounded sum of two numbers. -/
def add (x y : Binary64) : Binary64 :=
  match x, y with
  | nan o, _ => nan o
  | _, nan o => nan o
  | infinity s, infinity t => if s = t then infinity s else nan 0
  | infinity s, _ => infinity s
  | _, infinity t => infinity t
  | finite .., finite .. =>
    match x.toRatio?, y.toRatio? with
    | some (a, b), some (c, d) =>
      let n := a * d + c * b
      if n = 0 then zero (x.isNegative && y.isNegative) else ofSignedRatio n (b * d)
    | _, _ => nan 0

/-- The rounded product of two numbers. -/
def mul (x y : Binary64) : Binary64 :=
  let s := x.isNegative != y.isNegative
  match x, y with
  | nan o, _ => nan o
  | _, nan o => nan o
  | infinity _, finite _ m _ => if m = 0 then nan 0 else infinity s
  | finite _ m _, infinity _ => if m = 0 then nan 0 else infinity s
  | infinity _, infinity _ => infinity s
  | finite .., finite .. =>
    match x.toRatio?, y.toRatio? with
    | some (a, b), some (c, d) => ofRatio s (a.natAbs * c.natAbs) (b * d)
    | _, _ => nan 0

/-! ## Order -/

/-- How a finite or infinite number stands to an integer. -/
def compareInt (x : Binary64) (n : Int) : Option Ordering :=
  match x with
  | nan _ => none
  | infinity s => some (if s then .lt else .gt)
  | finite .. =>
    match x.toRatio? with
    | some (a, b) => some (compare a (n * b))
    | none => none

/-- How two numbers that are numbers stand to each other; the two zeros are equal. -/
def compare (x y : Binary64) : Option Ordering :=
  match x, y with
  | nan _, _ => none
  | _, nan _ => none
  | infinity s, infinity t => some (if s = t then .eq else if s then .lt else .gt)
  | infinity s, _ => some (if s then .lt else .gt)
  | _, infinity t => some (if t then .gt else .lt)
  | finite .., finite .. =>
    match x.toRatio?, y.toRatio? with
    | some (a, b), some (c, d) => some (Ord.compare (a * d) (c * b))
    | _, _ => none

/-- The integer that a finite number without fraction equals. -/
def toInt? (x : Binary64) : Option Int :=
  match x.toRatio? with
  | some (a, b) => if a % b = 0 then some (a / b) else none
  | none => none

end Binary64

end ApiDoc
