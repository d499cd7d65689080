import ApiDoc.Number.Binary64

/-!
# Decimal text of binary numbers

**Reading.** `Decimal` is a digit string with a power of ten; `Decimal.toBinary64` rounds it once.

**Writing.** `Binary64.shortest` gives the fewest digits that read back as the number, and of
those the nearest. It tests, for one digit, two digits and so on, the two neighbours of the number
on that decimal grid against the interval of reals that round to it. `Binary64.text` lays the
digits out: in positional form between `10^-4` and `10^16`, with an exponent outside.
-/

namespace ApiDoc

/-- `digits · 10^exponent`, negated when `negative` holds. -/
structure Decimal where
  negative : Bool
  digits : Nat
  exponent : Int
  deriving DecidableEq, Repr

namespace Decimal

/-- A power of ten. -/
def tens (k : Nat) : Nat := Nat.pow 10 k

/-- The number of decimal digits of a natural number. -/
def length (n : Nat) : Nat := (Nat.toDigits 10 n).length

/-- The nearest binary number. Beyond 400 places on either side the answer is known without
forming the power of ten. -/
def toBinary64 (x : Decimal) : Binary64 :=
  if x.digits = 0 then .zero x.negative
  else
    let magnitude : Int := x.exponent + length x.digits
    if 400 < magnitude then .infinity x.negative
    else if magnitude < -400 then .zero x.negative
    else if 0 ≤ x.exponent then .ofRatio x.negative (x.digits * tens x.exponent.toNat) 1
    else .ofRatio x.negative x.digits (tens (-x.exponent).toNat)

end Decimal

namespace Binary64

/-! ## Shortest digits -/

/-- A positive number with the two ends of the interval that rounds to it, over one denominator. -/
structure Interval where
  low : Nat
  value : Nat
  high : Nat
  denominator : Nat
  /-- Whether the ends themselves round to the number. -/
  closed : Bool

/-- The interval of reals that round to `m · 2^e`. -/
def interval (m : Nat) (e : Int) : Interval :=
  let below := if m = leastMantissa ∧ minExponent < e then 1 else 2
  let (a, b) := scaled 1 4 (-e)
  { low := (4 * m - below) * a, value := 4 * m * a, high := (4 * m + 2) * a,
    denominator := b, closed := m % 2 = 0 }

namespace Interval

/-- The exponent of the first decimal digit of the number. -/
def leadingExponent (i : Interval) : Int :=
  if i.denominator ≤ i.value then (Decimal.length (i.value / i.denominator) : Int) - 1
  else
    let places := Decimal.length (i.denominator / i.value)
    if i.denominator ≤ i.value * Decimal.tens (places - 1) then 1 - (places : Int)
    else -(places : Int)

/-- The interval in units of `10^u`. -/
def inUnits (i : Interval) (u : Int) : Interval :=
  if 0 ≤ u then { i with denominator := i.denominator * Decimal.tens u.toNat }
  else
    let p := Decimal.tens (-u).toNat
    { i with low := i.low * p, value := i.value * p, high := i.high * p }

/-- The whole number of units nearest to the number among its two neighbours, if one of them is in
the interval; a tie goes to the even one. -/
def neighbour? (i : Interval) : Option Nat :=
  let c := i.value / i.denominator
  let below := c * i.denominator
  let above := (c + 1) * i.denominator
  let belowIn := if i.closed then i.low ≤ below else i.low < below
  let aboveIn := if i.closed then above ≤ i.high else above < i.high
  if belowIn ∧ aboveIn then
    let down := i.value - below
    let up := above - i.value
    some (if down < up then c else if up < down then c + 1 else c + c % 2)
  else if belowIn then some c
  else if aboveIn then some (c + 1)
  else none

/-- The digits that `n` digits give, as a multiple of a power of ten. -/
def digits? (i : Interval) (n : Nat) : Option (Nat × Int) :=
  let u := i.leadingExponent + 1 - n
  ((i.inUnits u).neighbour?).map fun c => (c, u)

end Interval

/-- Drops the zeros at the end of a digit string; `fuel` bounds their number. -/
def stripZeros : Nat → Nat → Int → Nat × Int
  | 0, d, u => (d, u)
  | fuel + 1, d, u => if d % 10 = 0 ∧ d ≠ 0 then stripZeros fuel (d / 10) (u + 1) else (d, u)

/-- The shortest decimal that reads back as `m · 2^e`, as digits and the exponent of the last. -/
def shortest (m : Nat) (e : Int) : Nat × Int :=
  let i := interval m e
  match (List.range' 1 17).findSome? i.digits? with
  | some (d, u) => stripZeros 17 d u
  | none => (m, e)

/-! ## Layout -/

/-- The digits of a number with the decimal point put after `point` of them. -/
def positional (digits : List Char) (point : Int) : List Char :=
  if point ≤ 0 then '0' :: '.' :: (List.replicate (-point).toNat '0' ++ digits)
  else
    let n := point.toNat
    if digits.length ≤ n then digits ++ List.replicate (n - digits.length) '0' ++ ['.', '0']
    else digits.take n ++ '.' :: digits.drop n

/-- The digits of a number in scientific form; the exponent has a sign and at least two digits. -/
def scientific (digits : List Char) (exponent : Int) : List Char :=
  let point := match digits with
    | d :: r@(_ :: _) => d :: '.' :: r
    | ds => ds
  let places := (toString exponent.natAbs).toList
  let padded := if places.length < 2 then '0' :: places else places
  point ++ 'e' :: (if exponent < 0 then '-' else '+') :: padded

/-- The text of a number: positional form from `0.0001` up to sixteen whole digits. -/
def text : Binary64 → String
  | nan _ => "nan"
  | infinity s => if s then "-inf" else "inf"
  | finite s m e =>
    let sign := if s then ['-'] else []
    if m = 0 then .ofList (sign ++ ['0', '.', '0'])
    else
      let (d, u) := shortest m e
      let digits := (toString d).toList
      let point := digits.length + u
      .ofList (sign ++
        (if -4 < point ∧ point ≤ 16 then positional digits point
          else scientific digits (point - 1)))

end Binary64

end ApiDoc
