import Mathlib.Algebra.Order.Field.Rat
import Mathlib.Order.Compare
import Mathlib.Order.WithBot
import Mathlib.Tactic.FieldSimp
import Mathlib.Tactic.Positivity
import ApiDoc.Number.Basic

/-!
# The order of numbers

A number stands for an exact value: a fraction, or one of the two infinities. What is not a number
stands for none. Comparing two numbers compares their values exactly, for every mix of integers of
any size and floating-point numbers (`Number.compare_eq`), so the first one exceeds the second
exactly when both have a value and that of the first is greater (`Number.exceeds_iff`).
-/

namespace ApiDoc

/-- The fractions with the two infinities. -/
abbrev ExtendedRat := WithBot (WithTop ℚ)

/-- A fraction as one of the extended fractions. -/
def ExtendedRat.ofRat (q : ℚ) : ExtendedRat := ((q : WithTop ℚ) : WithBot (WithTop ℚ))

theorem ExtendedRat.strictMono_ofRat : StrictMono ofRat := fun _ _ h =>
  WithBot.coe_lt_coe.mpr (WithTop.coe_lt_coe.mpr h)

open ExtendedRat (ofRat)

/-! ## Values -/

def Binary64.value? : Binary64 → Option ExtendedRat
  | nan _ => none
  | infinity negative => some (if negative then ⊥ else ⊤)
  | finite negative m e => some (ofRat ((if negative then -(m : ℚ) else m) * 2 ^ e))

def Number.value? : Number → Option ExtendedRat
  | int n => some (ofRat n)
  | float x => x.value?

/-! ## Comparison -/

/-- The order of two fractions, cleared of their denominators. -/
theorem cmp_div_div {a c : Int} {b d : Nat} (hb : 0 < b) (hd : 0 < d) :
    cmp (ofRat (a / b)) (ofRat (c / d)) = compare (a * d) (c * b) := by
  have hmono : StrictMono fun q : ℚ => q * (b * d) := fun p q h =>
    mul_lt_mul_of_pos_right h (by positivity)
  have hleft : (a / b : ℚ) * (b * d) = (a * d : Int) := by
    push_cast
    field_simp
  have hright : (c / d : ℚ) * (b * d) = (c * b : Int) := by
    push_cast
    field_simp
  calc cmp (ofRat (a / b)) (ofRat (c / d))
      = cmp (a / b : ℚ) (c / d) := ExtendedRat.strictMono_ofRat.cmp_map_eq _ _
    _ = cmp ((a / b : ℚ) * (b * d)) ((c / d) * (b * d)) := (hmono.cmp_map_eq _ _).symm
    _ = cmp ((a * d : Int) : ℚ) ((c * b : Int) : ℚ) := by rw [hleft, hright]
    _ = cmp (a * d) (c * b) := Int.cast_strictMono.cmp_map_eq _ _
    _ = compare (a * d) (c * b) := cmp_eq_compare _ _

theorem cmp_div_int {a c : Int} {b : Nat} (hb : 0 < b) :
    cmp (ofRat (a / b)) (ofRat c) = compare a (c * b) := by
  have hcmp := cmp_div_div (a := a) (c := c) hb Nat.one_pos
  rwa [Nat.cast_one, div_one, Nat.cast_one, mul_one] at hcmp

theorem cmp_int (a c : Int) : cmp (ofRat a) (ofRat c) = compare a c := by
  have hcmp := cmp_div_int (a := a) (c := c) Nat.one_pos
  rwa [Nat.cast_one, div_one, Nat.cast_one, mul_one] at hcmp

namespace Binary64

/-- A mantissa with its exponent, as a fraction. -/
theorem scaled_one (m : Nat) (e : Int) :
    0 < (scaled m 1 (-e)).2 ∧ ((scaled m 1 (-e)).1 : ℚ) / (scaled m 1 (-e)).2 = m * 2 ^ e := by
  unfold scaled
  split
  · obtain ⟨k, rfl⟩ : ∃ k : Nat, e = -(k : Int) := ⟨(-e).toNat, by omega⟩
    simp [Nat.shiftLeft_eq, div_eq_mul_inv]
  · obtain ⟨k, rfl⟩ : ∃ k : Nat, e = k := ⟨e.toNat, by omega⟩
    simp [Nat.shiftLeft_eq]

/-- The fraction of a finite number is its value. -/
theorem toRatio?_finite (negative : Bool) (m : Nat) (e : Int) :
    ∃ a b, (finite negative m e).toRatio? = some (a, b) ∧ 0 < b ∧
      (finite negative m e).value? = some (ofRat ((a : Int) / (b : Nat))) := by
  obtain ⟨hpos, hvalue⟩ := scaled_one m e
  have hratio : (finite negative m e).toRatio? =
      some (if negative then -((scaled m 1 (-e)).1 : Int) else (scaled m 1 (-e)).1,
        (scaled m 1 (-e)).2) := rfl
  refine ⟨_, _, hratio, hpos, ?_⟩
  rw [value?]
  cases negative with
  | false => simp [hvalue]
  | true => simp [neg_div, hvalue]

theorem compareInt_eq (x : Binary64) (n : Int) :
    x.compareInt n = x.value?.map fun v => cmp v (ofRat n) := by
  cases x with
  | nan o => rfl
  | infinity negative => cases negative <;> rfl
  | finite negative m e =>
    obtain ⟨a, b, hratio, hb, hvalue⟩ := toRatio?_finite negative m e
    have hcompare : (finite negative m e).compareInt n = some (Ord.compare a (n * b)) := by
      simp only [compareInt, hratio]
    rw [hcompare, hvalue, Option.map_some, cmp_div_int hb]

theorem compare_eq (x y : Binary64) :
    x.compare y = x.value?.bind fun v => y.value?.map fun w => cmp v w := by
  cases x with
  | nan o => rfl
  | infinity s =>
    cases y with
    | nan o => rfl
    | infinity t => cases s <;> cases t <;> rfl
    | finite t m e => cases s <;> rfl
  | finite s m e =>
    cases y with
    | nan o => rfl
    | infinity t => cases t <;> rfl
    | finite t k f =>
      obtain ⟨a, b, hratio, hb, hvalue⟩ := toRatio?_finite s m e
      obtain ⟨c, d, hratio', hd, hvalue'⟩ := toRatio?_finite t k f
      have hcompare :
          (finite s m e).compare (finite t k f) = some (Ord.compare (a * d) (c * b)) := by
        simp only [compare, hratio, hratio']
      rw [hcompare, hvalue, hvalue', Option.bind_some, Option.map_some, cmp_div_div hb hd]

end Binary64

namespace Number

/-- **Comparison is exact.** Two numbers stand to each other as their values do. -/
theorem compare_eq (a b : Number) :
    a.compare b = a.value?.bind fun v => b.value?.map fun w => cmp v w := by
  cases a with
  | int m =>
    cases b with
    | int n => rw [value?, value?, Option.bind_some, Option.map_some, cmp_int, compare]
    | float y =>
      rw [compare, Binary64.compareInt_eq, Option.map_map, value?, value?, Option.bind_some]
      exact congrArg (Option.map · y.value?) (funext fun w => cmp_swap w _)
  | float x =>
    cases b with
    | int n =>
      rw [compare, Binary64.compareInt_eq, value?, value?]
      cases x.value? <;> rfl
    | float y => exact Binary64.compare_eq x y

/-- **A number exceeds another** when both have a value and its own is the greater one. -/
theorem exceeds_iff {a b : Number} :
    a.exceeds b = true ↔ ∃ v ∈ a.value?, ∃ w ∈ b.value?, w < v := by
  rw [exceeds, compare_eq, beq_iff_eq, Option.bind_eq_some_iff]
  refine exists_congr fun v => and_congr Iff.rfl ?_
  rw [Option.map_eq_some_iff]
  exact exists_congr fun w => and_congr Iff.rfl (cmp_eq_gt_iff v w)

end Number

end ApiDoc
