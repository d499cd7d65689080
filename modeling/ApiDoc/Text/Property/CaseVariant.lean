import ApiDoc.Text.Property.Lowercase

/-!
# Variants of a letter

Two characters are variants of one letter when they have the same lower-case form, or when their
lower-case forms share a capital. A few small letters do so, such as the two sigmas.
-/

namespace ApiDoc.Text

/-- The small letters that share a capital, by code points. -/
def sharedCapitals : List (List Nat) :=
  [
    [0x69, 0x131], [0x73, 0x17f], [0xb5, 0x3bc], [0x345, 0x3b9, 0x1fbe], [0x390, 0x1fd3],
    [0x3b0, 0x1fe3], [0x3b2, 0x3d0], [0x3b5, 0x3f5], [0x3b8, 0x3d1], [0x3ba, 0x3f0], [0x3c0, 0x3d6],
    [0x3c1, 0x3f1], [0x3c2, 0x3c3], [0x3c6, 0x3d5], [0x432, 0x1c80], [0x434, 0x1c81],
    [0x43e, 0x1c82], [0x441, 0x1c83], [0x442, 0x1c84, 0x1c85], [0x44a, 0x1c86], [0x463, 0x1c87],
    [0x1c88, 0xa64b], [0x1e61, 0x1e9b], [0xfb05, 0xfb06]
  ]

/-- The small letters that share a capital with a small letter, itself among them. -/
def smallVariants (n : Nat) : List Nat := (sharedCapitals.find? (·.contains n)).getD [n]

/-- The characters whose lower-case form is a small letter, itself among them. -/
def formsOf (n : Nat) : List Nat :=
  let capitals := caseRuns.filterMap fun r =>
    let m := (n - r.shift : Int).toNat
    if r.first ≤ m && m ≤ r.last && (m - r.first) % r.step == 0 then some m else none
  n :: (if 'a'.toNat ≤ n && n ≤ 'z'.toNat then [n - 32] else []) ++ capitals

def caseVariants (c : Char) : List Nat := (smallVariants (lowerChar c).toNat).flatMap formsOf

end ApiDoc.Text
