import ApiDoc.Proofs.Json.Syntax
import ApiDoc.Yaml.Scalar.Value
import Mathlib.Data.Bool.AllAny
import Mathlib.Data.List.TakeDrop
import Mathlib.Data.List.TakeWhile
import Mathlib.Tactic.IntervalCases

/-!
# Numbers of JSON as plain scalars

A number of the common part has the same value as a plain scalar: its text shows the right type
(`Tag.ofPlain_chars`), and as such it reads as the number that is meant (`readInteger_chars`,
`readFloat_chars`).
-/

namespace ApiDoc

/-! ## Characters of numbers -/

def digitChars : List Char := ['0', '1', '2', '3', '4', '5', '6', '7', '8', '9']

theorem mem_digitChars {c : Char} (h : c.isDigit = true) : c ∈ digitChars := by
  have hbounds : 48 ≤ c.toNat ∧ c.toNat ≤ 57 := by
    simpa [Char.isDigit, UInt32.le_iff_toNat_le] using h
  obtain ⟨hlow, hhigh⟩ := hbounds
  rw [← Char.ofNat_toNat c]
  generalize c.toNat = n at hlow hhigh ⊢
  interval_cases n <;> decide

/-- What holds of the ten digits holds of every digit. -/
theorem of_isDigit {p : Char → Prop} [DecidablePred p] (h : (digitChars.all fun c => p c) = true)
    {c : Char} (hc : c.isDigit = true) : p c :=
  List.all_iff_forall_prop.mp h c (mem_digitChars hc)

/-- The characters that exponents are made of. -/
def exponentChars : List Char := digitChars ++ ['-', '+', 'e', 'E']

/-- The characters that numbers are made of. -/
def numeralChars : List Char := '.' :: exponentChars

theorem mem_exponentChars {c : Char} (h : c.isDigit = true) : c ∈ exponentChars :=
  List.mem_append_left _ (mem_digitChars h)

theorem mem_numeralChars {c : Char} (h : c.isDigit = true) : c ∈ numeralChars :=
  List.mem_cons_of_mem _ (mem_exponentChars h)

/-- In a text of ASCII characters each has a lower-case form of its own. -/
theorem Text.lowerAfter_of_ascii {before cs : List Char} (h : ∀ c ∈ cs, c.toNat < 0x80) :
    Text.lowerAfter before cs = cs.map Char.toLower := by
  induction cs generalizing before with
  | nil => rfl
  | cons c cs ih =>
    obtain ⟨hc, hcs⟩ := List.forall_mem_cons.mp h
    have hsigma : c ≠ 'Σ' := by rintro rfl; exact absurd hc (by decide)
    have hdotted : c ≠ 'İ' := by rintro rfl; exact absurd hc (by decide)
    rw [Text.lowerAfter, ih hcs, if_neg hsigma, if_neg hdotted, Text.lowerChar, if_pos hc]
    rfl

/-! ## Signs of floating-point numbers -/

namespace Binary64

/-- A number that is not the result of an operation without one. -/
def IsNumber : Binary64 → Prop
  | nan _ => False
  | _ => True

theorem isNumber_ofRatio (negative : Bool) (n d : Nat) : (ofRatio negative n d).IsNumber := by
  unfold ofRatio
  dsimp only
  repeat' split
  all_goals trivial

theorem ofRatio_true (n d : Nat) : ofRatio true n d = (ofRatio false n d).neg := by
  unfold ofRatio
  dsimp only
  repeat' split
  all_goals rfl

end Binary64

namespace Decimal

theorem isNumber_toBinary64 (x : Decimal) : x.toBinary64.IsNumber := by
  unfold toBinary64
  dsimp only
  repeat' split
  · trivial
  · trivial
  · trivial
  · exact Binary64.isNumber_ofRatio ..
  · exact Binary64.isNumber_ofRatio ..

/-- The sign of a decimal number is the sign of the number nearest to it. -/
theorem toBinary64_negative (x : Decimal) :
    ({ x with negative := true } : Decimal).toBinary64 =
      ({ x with negative := false } : Decimal).toBinary64.neg := by
  unfold toBinary64
  dsimp only
  repeat' split
  · rfl
  · rfl
  · rfl
  · exact Binary64.ofRatio_true ..
  · exact Binary64.ofRatio_true ..

end Decimal

/-- What begins with characters of a class and goes on with one that is not of it is cut there. -/
theorem cut_append {p : Char → Bool} {front r : List Char} (hfront : ∀ c ∈ front, p c = true)
    (hrest : ∀ c ∈ r.head?, p c = false) :
    (front ++ r).takeWhile p = front ∧ (front ++ r).dropWhile p = r := by
  rw [List.takeWhile_append_of_pos hfront, List.dropWhile_append_of_pos hfront]
  cases r with
  | nil => exact ⟨List.append_nil _, rfl⟩
  | cons c cs => simp [hrest c rfl]

/-- A text without colons has no digits in base 60. -/
theorem Yaml.Tag.isSixties_of_not_mem {cs : List Char} (h : ':' ∉ cs) (first : List Char → Bool) :
    Yaml.Tag.isSixties first cs = false := by
  rw [Yaml.Tag.isSixties, Text.pieces_of_not_mem h]

/-- What is read as digits are digits at the beginning of the text. -/
theorem Yaml.WrittenDate.eq_of_digits {least most : Nat} {cs ds rest : List Char}
    (h : Yaml.WrittenDate.digits least most cs = some (ds, rest)) :
    cs = ds ++ rest ∧ least ≤ ds.length ∧ ∀ c ∈ ds, c.isDigit = true := by
  unfold Yaml.WrittenDate.digits at h
  dsimp only at h
  split at h
  · rename_i hleast
    obtain ⟨rfl, rfl⟩ := Prod.mk.inj (Option.some.inj h)
    obtain ⟨more, hmore⟩ := (List.takeWhile_prefix Char.isDigit).trans (List.take_prefix most cs)
    refine ⟨?_, hleast, fun c hc => List.mem_takeWhile_imp hc⟩
    rw [List.prefix_iff_eq_append.mp ⟨more, hmore⟩]
  · cases h

namespace Json

/-- One or more digits begin with one. -/
theorem Digits.exists_cons (ds : Digits) :
    ∃ d cs, ds.1 = d :: cs ∧ d.isDigit = true ∧ ∀ c ∈ cs, c.isDigit = true := by
  obtain ⟨cs, hne, hall⟩ := ds
  cases cs with
  | nil => exact absurd rfl hne
  | cons d ds => exact ⟨d, ds, rfl, List.forall_mem_cons.mp hall⟩

theorem Exponent.mem_exponentChars (e : Exponent) : ∀ c ∈ e.chars, c ∈ exponentChars := by
  have hletter : ∀ capital : Bool, (if capital then 'E' else 'e') ∈ exponentChars := by decide
  refine List.forall_mem_cons.mpr ⟨hletter _, List.forall_mem_append.mpr ⟨?_,
    fun c hc => ApiDoc.mem_exponentChars (e.digits.2.2 c hc)⟩⟩
  cases e.sign with
  | none => exact List.forall_mem_nil _
  | some negative => cases negative <;> exact List.forall_mem_singleton.mpr (by decide)

namespace Numeral

variable (n : Numeral)

/-! ## The characters of a number -/

/-- What stands behind the digits before the point. -/
def tailChars : List Char :=
  n.fraction.elim [] (fun ds => '.' :: ds.1) ++ n.exponent.elim [] Exponent.chars

theorem magnitudeChars_eq : n.magnitudeChars = n.whole.1 ++ n.tailChars := rfl

theorem isInteger_eq : n.isInteger = n.tailChars.isEmpty := by
  unfold isInteger tailChars
  cases n.fraction <;> cases n.exponent <;> rfl

theorem magnitudeChars_of_isInteger (h : n.isInteger = true) : n.magnitudeChars = n.whole.1 := by
  have htail : n.tailChars = [] := List.isEmpty_iff.mp (n.isInteger_eq ▸ h)
  rw [magnitudeChars_eq, htail, List.append_nil]

theorem exists_magnitude : ∃ d cs, n.magnitudeChars = d :: cs ∧ d.isDigit = true := by
  obtain ⟨d, ds, hwhole, hd, -⟩ := n.whole.exists_cons
  exact ⟨d, _, by rw [magnitudeChars_eq, hwhole]; rfl, hd⟩

/-- An exponent begins with its letter. -/
theorem head?_exponent {p : Char → Prop} (hletter : p 'e' ∧ p 'E') {r : List Char}
    (hrest : ∀ c ∈ r.head?, p c) :
    ∀ c ∈ (n.exponent.elim [] Exponent.chars ++ r).head?, p c := by
  cases n.exponent with
  | none => exact hrest
  | some e =>
    simp only [Option.elim, Exponent.chars, List.cons_append, List.head?_cons, Option.mem_some_iff,
      forall_eq']
    cases e.capital
    · exact hletter.1
    · exact hletter.2

/-- Behind the digits before the point stands the point or the letter of the exponent. -/
theorem head?_tail {p : Char → Prop} (hpoint : p '.') (hletter : p 'e' ∧ p 'E') :
    ∀ c ∈ n.tailChars.head?, p c := by
  have hexponent := n.head?_exponent hletter (r := []) (by simp)
  unfold tailChars
  cases n.fraction with
  | none => rwa [List.append_nil] at hexponent
  | some ds => exact fun c hc => Option.some.inj hc ▸ hpoint

theorem mem_numeralChars_of_magnitude : ∀ c ∈ n.magnitudeChars, c ∈ numeralChars := by
  refine List.forall_mem_append.mpr ⟨fun c hc => mem_numeralChars (n.whole.2.2 c hc),
    List.forall_mem_append.mpr ⟨?_, ?_⟩⟩
  · cases n.fraction with
    | none => exact List.forall_mem_nil _
    | some ds =>
      exact List.forall_mem_cons.mpr ⟨by decide, fun c hc => mem_numeralChars (ds.2.2 c hc)⟩
  · cases n.exponent with
    | none => exact List.forall_mem_nil _
    | some e => exact fun c hc => List.mem_cons_of_mem _ (e.mem_exponentChars c hc)

theorem mem_numeralChars_of_chars : ∀ c ∈ n.chars, c ∈ numeralChars := by
  unfold chars
  split
  · exact List.forall_mem_cons.mpr ⟨by decide, n.mem_numeralChars_of_magnitude⟩
  · exact n.mem_numeralChars_of_magnitude

/-- What holds of the characters of numbers holds of all characters of a number. -/
theorem forall_mem_chars {p : Char → Prop} [DecidablePred p]
    (h : (numeralChars.all fun c => p c) = true) :
    ∀ c ∈ n.chars, p c :=
  fun c hc => List.all_iff_forall_prop.mp h c (n.mem_numeralChars_of_chars c hc)

/-- A number has no colon. -/
theorem colon_not_mem : ':' ∉ n.magnitudeChars :=
  fun h => absurd (n.mem_numeralChars_of_magnitude _ h) (by decide)

/-- A number begins with a digit or a minus sign. -/
theorem exists_chars : ∃ c cs, n.chars = c :: cs ∧ c ∈ '-' :: digitChars := by
  obtain ⟨d, cs, hmagnitude, hd⟩ := n.exists_magnitude
  unfold chars
  split
  · exact ⟨'-', _, rfl, List.mem_cons_self⟩
  · exact ⟨d, cs, hmagnitude, List.mem_cons_of_mem _ (mem_digitChars hd)⟩

/-- A text that begins with a digit has no sign. -/
theorem splitSign_of_isDigit {d : Char} {cs : List Char} (hd : d.isDigit = true) :
    ApiDoc.Numeral.splitSign (d :: cs) = (false, d :: cs) := by
  unfold ApiDoc.Numeral.splitSign
  split
  · rename_i h
    cases (List.cons.inj h).1
    cases hd
  · rename_i h
    cases (List.cons.inj h).1
    cases hd
  · rfl

theorem splitSign_chars : ApiDoc.Numeral.splitSign n.chars = (n.negative, n.magnitudeChars) := by
  obtain ⟨d, cs, hmagnitude, hd⟩ := n.exists_magnitude
  unfold chars
  cases n.negative with
  | true => rfl
  | false =>
    rw [hmagnitude]
    exact splitSign_of_isDigit hd

theorem unsigned_of_isDigit {d : Char} (hd : d.isDigit = true) (cs : List Char) :
    Yaml.Tag.unsigned (d :: cs) = d :: cs :=
  if_neg (of_isDigit (p := fun d => ¬(d = '+' ∨ d = '-')) (by decide) hd)

theorem unsigned_chars : Yaml.Tag.unsigned n.chars = n.magnitudeChars := by
  obtain ⟨d, cs, hmagnitude, hd⟩ := n.exists_magnitude
  unfold chars
  cases n.negative with
  | true => rfl
  | false =>
    rw [hmagnitude]
    exact unsigned_of_isDigit hd cs

/-! ## The type that a number shows -/

theorem isDigits_whole : Yaml.Tag.isDigits n.whole.1 = true := by
  obtain ⟨d, ds, hwhole, hd, hds⟩ := n.whole.exists_cons
  rw [hwhole, Yaml.Tag.isDigits, hd, Bool.true_and]
  exact List.all_eq_true.mpr fun c hc => by rw [Yaml.Tag.isDigitOrGap, hds c hc, Bool.true_or]

/-- An exponent has the form of YAML when it has a sign. -/
theorem isExponent_chars (e : Exponent) : Yaml.Tag.isExponent e.chars = e.sign.isSome := by
  have hrun : Yaml.Tag.isRun Char.isDigit e.digits.1 = true := by
    rw [Yaml.Tag.isRun, List.all_eq_true.mpr e.digits.2.2, Bool.and_true, Bool.not_eq_true',
      List.isEmpty_eq_false_iff]
    exact e.digits.2.1
  unfold Exponent.chars
  cases e.sign with
  | some negative => cases e.capital <;> cases negative <;> exact hrun
  | none =>
    obtain ⟨d, ds, hdigits, hd, -⟩ := e.digits.exists_cons
    have hsign : decide (d = '+') = false ∧ decide (d = '-') = false :=
      of_isDigit (p := fun d => decide (d = '+') = false ∧ decide (d = '-') = false) (by decide) hd
    rw [hdigits]
    simp only [Option.elim, List.nil_append, Yaml.Tag.isExponent, hsign, Bool.or_self,
      Bool.and_false, Bool.false_and, Option.isSome_none]

/-- What stands behind the point of a number, cut where the digits end. -/
theorem cut_fraction {p : Char → Bool} (hdigit : digitChars.all p = true)
    (hletter : p 'e' = false ∧ p 'E' = false) (ds : Digits) :
    (ds.1 ++ n.exponent.elim [] Exponent.chars).takeWhile p = ds.1 ∧
      (ds.1 ++ n.exponent.elim [] Exponent.chars).dropWhile p =
        n.exponent.elim [] Exponent.chars := by
  have hend := n.head?_exponent (p := fun c => p c = false) hletter (r := []) (by simp)
  rw [List.append_nil] at hend
  exact cut_append (fun c hc => List.all_eq_true.mp hdigit c (mem_digitChars (ds.2.2 c hc))) hend

/-- A number without a fraction has no point. -/
theorem span_of_fraction_eq_none (h : n.fraction = none) :
    n.magnitudeChars.span (· ≠ '.') = (n.magnitudeChars, []) := by
  have hexponent : ∀ c ∈ n.magnitudeChars, c ∈ exponentChars := by
    rw [magnitudeChars, h]
    refine List.forall_mem_append.mpr ⟨fun c hc => mem_exponentChars (n.whole.2.2 c hc), ?_⟩
    cases n.exponent with
    | none => exact List.forall_mem_nil _
    | some e => exact e.mem_exponentChars
  have hpoint : ∀ c ∈ exponentChars, decide (c ≠ '.') = true :=
    List.all_iff_forall_prop.mp (by decide)
  have hall : ∀ c ∈ n.magnitudeChars, decide (c ≠ '.') = true :=
    fun c hc => hpoint c (hexponent c hc)
  rw [List.span_eq_takeWhile_dropWhile, List.takeWhile_eq_self_iff.mpr hall,
    List.dropWhile_eq_nil_iff.mpr hall]

/-- The first point of a number is the one before its fraction. -/
theorem span_of_fraction_eq_some {ds : Digits} (h : n.fraction = some ds) :
    n.magnitudeChars.span (· ≠ '.') =
      (n.whole.1, '.' :: (ds.1 ++ n.exponent.elim [] Exponent.chars)) := by
  have hwhole : ∀ c ∈ n.whole.1, decide (c ≠ '.') = true :=
    fun c hc => of_isDigit (p := fun c => decide (c ≠ '.') = true) (by decide) (n.whole.2.2 c hc)
  have hcut := cut_append (r := '.' :: (ds.1 ++ n.exponent.elim [] Exponent.chars)) hwhole (by simp)
  rw [List.span_eq_takeWhile_dropWhile, magnitudeChars, h]
  exact Prod.ext hcut.1 hcut.2

/-- A number has the form of a floating-point number when it has a point and its exponent has a
sign. -/
theorem isFloat_chars :
    Yaml.Tag.isFloat n.chars = (n.fraction.isSome && n.exponent.all fun e => e.sign.isSome) := by
  unfold Yaml.Tag.isFloat
  rw [unsigned_chars]
  cases h : n.fraction with
  | none =>
    rw [n.span_of_fraction_eq_none h]
    rfl
  | some ds =>
    have hempty : n.whole.1.isEmpty = false := List.isEmpty_eq_false_iff.mpr n.whole.2.1
    -- With a point, the exponent decides: it needs a sign.
    obtain ⟨-, hbehind⟩ := n.cut_fraction (p := Yaml.Tag.isDigitOrGap) (by decide) (by decide) ds
    rw [n.span_of_fraction_eq_some h]
    simp only [hempty, hbehind, isDigits_whole, Bool.false_eq_true, if_false, Bool.true_and,
      Option.isSome_some]
    cases n.exponent with
    | none => rfl
    | some e =>
      have hchars : e.chars.isEmpty = false := rfl
      rw [Option.elim_some, isExponent_chars, hchars, Bool.and_false, Bool.or_false,
        Option.all_some]

/-- Behind a zero goes on what is no octal digit and no letter for a base. -/
theorem isInteger_zero {t : Char} (ht : t ∈ ['.', 'e', 'E']) (ts : List Char) :
    Yaml.Tag.isInteger ('0' :: t :: ts) = false := by
  obtain rfl | rfl | rfl : t = '.' ∨ t = 'e' ∨ t = 'E' := by simpa using ht
  all_goals rfl

/-- A text that begins with another digit than zero is an integer when it goes on with digits. -/
theorem isInteger_cons {d : Char} (hd : d.isDigit = true) (hzero : d ≠ '0') {cs : List Char}
    (hcolon : ':' ∉ d :: cs) :
    Yaml.Tag.isInteger (d :: cs) = cs.all Yaml.Tag.isDigitOrGap := by
  unfold Yaml.Tag.isInteger
  rw [unsigned_of_isDigit hd]
  split <;> rename_i heq <;> try exact absurd (List.cons.inj heq).1 hzero
  dsimp only
  rw [Yaml.Tag.isSixties_of_not_mem hcolon, Bool.or_false]
  split
  · rename_i heq
    exact absurd (List.cons.inj heq).1 hzero
  · rw [Yaml.Tag.isDigits, hd, Bool.true_and]

/-- A number has the form of an integer when it is one. -/
theorem isInteger_chars : Yaml.Tag.isInteger n.chars = n.isInteger := by
  obtain ⟨d, ds, hwhole, hd, hds⟩ := n.whole.exists_cons
  have hmagnitude : n.magnitudeChars = d :: (ds ++ n.tailChars) := by
    rw [magnitudeChars_eq, hwhole, List.cons_append]
  have hsign : Yaml.Tag.isInteger n.chars = Yaml.Tag.isInteger (d :: (ds ++ n.tailChars)) := by
    unfold Yaml.Tag.isInteger
    rw [unsigned_chars, hmagnitude, unsigned_of_isDigit hd]
  have htail := n.head?_tail (p := fun c => c ∈ ['.', 'e', 'E']) (by decide) (by decide)
  have hcolon := hmagnitude ▸ n.colon_not_mem
  rw [hsign, isInteger_eq]
  -- A leading zero would open an octal number, but JSON allows it only on its own.
  by_cases hzero : d = '0'
  · subst hzero
    obtain rfl : ds = [] := (List.cons.inj (hwhole ▸ n.lead (hwhole ▸ rfl))).2
    cases htailChars : n.tailChars with
    | nil => rfl
    | cons t ts => exact isInteger_zero (htail t (htailChars ▸ rfl)) ts
  · have hdigits : ds.all Yaml.Tag.isDigitOrGap = true :=
      List.all_eq_true.mpr fun c hc => by rw [Yaml.Tag.isDigitOrGap, hds c hc, Bool.true_or]
    rw [isInteger_cons hd hzero hcolon, List.all_append, hdigits, Bool.true_and]
    cases htailChars : n.tailChars with
    | nil => rfl
    | cons t ts =>
      have hgap : ∀ t ∈ ['.', 'e', 'E'], Yaml.Tag.isDigitOrGap t = false :=
        List.all_iff_forall_prop.mp (by decide)
      rw [List.all_cons, hgap t (htail t (htailChars ▸ rfl))]
      rfl

/-- No minus sign stands behind the digits that a number begins with. -/
theorem not_digits_minus {ds more : List Char} (hne : ds ≠ []) (hds : ∀ c ∈ ds, c.isDigit = true) :
    n.chars ≠ ds ++ '-' :: more := by
  intro h
  obtain ⟨hfront, hbehind⟩ := cut_append (r := '-' :: more) hds (by simp)
  rw [← h] at hfront hbehind
  unfold chars at hfront hbehind
  cases hnegative : n.negative with
  | true =>
    rw [hnegative] at hfront
    exact hne hfront.symm
  | false =>
    have htail := n.head?_tail (p := fun c => c.isDigit = false) rfl ⟨rfl, rfl⟩
    have hminus := n.head?_tail (p := fun c => c ≠ '-') (by decide) (by decide)
    rw [hnegative, if_neg Bool.false_ne_true, magnitudeChars_eq, (cut_append n.whole.2.2 htail).2]
      at hbehind
    exact hminus '-' (hbehind ▸ rfl) rfl

theorem isTimestamp_chars : Yaml.Tag.isTimestamp n.chars = false := by
  have hnone : Yaml.WrittenDate.ofText? n.chars = none := by
    unfold Yaml.WrittenDate.ofText?
    cases hdigits : Yaml.WrittenDate.digits 4 4 n.chars with
    | none => rfl
    | some p =>
      obtain ⟨year, rest⟩ := p
      obtain ⟨hchars, hlength, hyear⟩ := Yaml.WrittenDate.eq_of_digits hdigits
      have hne : year ≠ [] := List.ne_nil_of_length_pos (Nat.lt_of_lt_of_le (by decide) hlength)
      have hafter : Yaml.WrittenDate.after '-' rest = none := by
        cases rest with
        | nil => rfl
        | cons c more => exact if_neg fun hc => n.not_digits_minus hne hyear (hc ▸ hchars)
      simp only [Option.bind_eq_bind, Option.bind_some, hafter, Option.bind_none]
  rw [Yaml.Tag.isTimestamp, hnone]

/-- A number that is no integer belongs to the common part when it has a point and its exponent has
a sign. -/
theorem isCommon_iff (h : n.isInteger = false) :
    n.IsCommon ↔ (n.fraction.isSome && n.exponent.all fun e => e.sign.isSome) = true := by
  unfold isInteger at h
  unfold IsCommon
  cases hexponent : n.exponent with
  | none =>
    rw [hexponent, Option.isNone_none, Bool.and_true] at h
    simp [Option.isNone_eq_false_iff.mp h]
  | some e => rw [Option.all_some, Bool.and_eq_true_iff]

/-- The text of a number shows its type. A number that has an exponent but no point or no sign in
the exponent shows the type of texts. -/
theorem ofPlain_chars :
    Yaml.Tag.ofPlain (.ofList n.chars) = if n.isInteger then .int else if n.IsCommon then .float
      else .str := by
  obtain ⟨c, cs, hchars, hc⟩ := n.exists_chars
  have hbreak : n.chars.getLast? ≠ some '\n' := fun h =>
    n.forall_mem_chars (p := fun c => c ≠ '\n') (by decide) _ (List.mem_of_getLast? h) rfl
  -- The words for null, booleans and special numbers begin with other characters.
  have hword {words : List String}
      (h : (words.all fun w => w.toList.head?.all (· ∉ '-' :: digitChars)) = true) :
      words.contains (.ofList n.chars) = false := by
    refine Bool.eq_false_iff.mpr fun hmem => ?_
    have hhead := List.all_eq_true.mp h _ (List.contains_iff_mem.mp hmem)
    rw [String.toList_ofList, hchars] at hhead
    exact of_decide_eq_true hhead hc
  have hne {word : String} (h : word.toList.head?.all (· ∉ '-' :: digitChars) = true) :
      String.ofList n.chars ≠ word := by
    rintro rfl
    rw [String.toList_ofList, hchars] at h
    exact of_decide_eq_true h hc
  have hempty : (String.ofList n.chars).isEmpty = false := by simp [hchars]
  unfold Yaml.Tag.ofPlain
  rw [String.toList_ofList]
  dsimp only
  rw [if_neg hbreak, hempty, hword (by decide), hword (by decide), isFloat_chars, isInteger_chars,
    isTimestamp_chars, if_neg (hne (by decide)), if_neg (hne (by decide))]
  cases h : n.isInteger with
  | true =>
    obtain ⟨hfraction, -⟩ := Bool.and_eq_true_iff.mp h
    rw [Option.isNone_iff_eq_none.mp hfraction]
    rfl
  | false => simp [n.isCommon_iff h]

example : ["10", "1.5", "1.5e+3", "1e5"].map Yaml.Tag.ofPlain = [.int, .float, .float, .str] := by
  decide +kernel

/-! ## The number that is read -/

/-- A class of characters that no number has any of takes nothing away. -/
theorem filter_chars : n.chars.filter (· ≠ '_') = n.chars :=
  List.filter_eq_self.mpr (n.forall_mem_chars (p := fun c => decide (c ≠ '_') = true) (by decide))

theorem splitNumber_chars : Yaml.splitNumber n.chars = .ok (n.negative, n.magnitudeChars) := by
  obtain ⟨c, cs, hchars, -⟩ := n.exists_chars
  unfold Yaml.splitNumber
  rw [filter_chars, ← n.splitSign_chars, hchars]

theorem trim_of_forall {p : Char → Bool} {cs : List Char} (h : ∀ c ∈ cs, p c = false) :
    Text.trim p cs = cs := by
  have hfront : ∀ {cs : List Char}, (∀ c ∈ cs, p c = false) → cs.dropWhile p = cs := fun h =>
    List.dropWhile_eq_self_iff.mpr fun hlength => by simp [h _ (List.getElem_mem hlength)]
  rw [Text.trim, hfront h, hfront fun c hc => h c (List.mem_reverse.mp hc), List.reverse_reverse]

/-- Digits and the other characters of numbers are neither white space nor digits of another
script. -/
theorem usual_of_mem {cs : List Char} (h : ∀ c ∈ cs, c ∈ numeralChars) :
    (Text.trim Text.isWhiteSpace cs).map Yaml.usualDigit = cs := by
  have hspace : ∀ c ∈ numeralChars, Text.isWhiteSpace c = false :=
    List.all_iff_forall_prop.mp (by decide)
  have husual : ∀ c ∈ numeralChars, Yaml.usualDigit c = c := List.all_iff_forall_prop.mp (by decide)
  rw [trim_of_forall fun c hc => hspace c (h c hc)]
  exact (List.map_congr_left fun c hc => husual c (h c hc)).trans (List.map_id cs)

theorem mapM_of_forall {α β : Type} {f : α → Option β} {g : α → β} {xs : List α}
    (h : ∀ x ∈ xs, f x = some (g x)) : xs.mapM f = some (xs.map g) := by
  induction xs with
  | nil => rfl
  | cons x xs ih =>
    obtain ⟨hx, hxs⟩ := List.forall_mem_cons.mp h
    rw [List.mapM_cons, hx, ih hxs]
    rfl

theorem digitsValue?_of_isDigit {ds : List Char} (hne : ds ≠ [])
    (hds : ∀ c ∈ ds, c.isDigit = true) :
    Yaml.digitsValue? 10 ds = some (Text.decimal ds) := by
  have hdigit : ∀ c ∈ ds, (Text.hexValue? c).filter (· < 10) = some (c.toNat - 0x30) := fun c hc =>
    of_isDigit (p := fun c => (Text.hexValue? c).filter (· < 10) = some (c.toNat - 0x30))
      (by decide) (hds c hc)
  unfold Yaml.digitsValue?
  rw [mapM_of_forall hdigit]
  cases ds with
  | nil => exact absurd rfl hne
  | cons d ds => exact congrArg some (List.foldl_map ..)

theorem withoutBaseMark_ten (cs : List Char) : Yaml.withoutBaseMark 10 cs = cs := by
  unfold Yaml.withoutBaseMark
  split
  · exact if_neg nofun
  · rfl

theorem takeWhile_isDigit {ds : List Char} (hds : ∀ c ∈ ds, c.isDigit = true) :
    ds.takeWhile Char.isDigit = ds := List.takeWhile_eq_self_iff.mpr hds

theorem readDigits_of_isDigit {ds : List Char} (hne : ds ≠ []) (hds : ∀ c ∈ ds, c.isDigit = true)
    (hlength : ds.length ≤ 4300) : Yaml.readDigits 10 ds = .ok (Text.decimal ds : Int) := by
  have hsplit : ApiDoc.Numeral.splitSign ds = (false, ds) := by
    cases ds with
    | nil => exact absurd rfl hne
    | cons d ds => exact splitSign_of_isDigit (hds d List.mem_cons_self)
  unfold Yaml.readDigits
  rw [usual_of_mem fun c hc => mem_numeralChars (hds c hc), hsplit]
  simp only [takeWhile_isDigit hds, withoutBaseMark_ten, digitsValue?_of_isDigit hne hds,
    Bool.false_eq_true, if_false]
  exact if_neg fun h => absurd h.2 (Nat.not_lt.mpr hlength)

theorem readMagnitude_whole (hlength : n.whole.1.length ≤ 4300) :
    Yaml.readMagnitude n.whole.1 = .ok (Text.decimal n.whole.1 : Int) := by
  obtain ⟨d, ds, hwhole, hd, hds⟩ := n.whole.exists_cons
  have hlead := n.lead
  have hread := readDigits_of_isDigit n.whole.2.1 n.whole.2.2 hlength
  have hcolon : n.whole.1.contains ':' = false := Bool.eq_false_iff.mpr fun h =>
    of_isDigit (p := fun c => c ≠ ':') (by decide) (n.whole.2.2 _ (List.contains_iff_mem.mp h)) rfl
  rw [hwhole] at hlead hread hcolon ⊢
  by_cases hzero : d = '0'
  · subst hzero
    obtain rfl : ds = [] := (List.cons.inj (hlead rfl)).2
    rfl
  · unfold Yaml.readMagnitude
    split <;> rename_i heq <;> try exact absurd (List.cons.inj heq).1 hzero
    · cases heq
    · rw [hcolon]
      exact hread

/-- An integer of the common part is the one that is read. -/
theorem readInteger_chars (hcommon : n.IsCommon) (h : n.isInteger = true) :
    (Yaml.readInteger n.chars).map Number.int = .ok n.value := by
  have hlength : n.whole.1.length ≤ 4300 := by
    obtain ⟨hfraction, hexponent⟩ := Bool.and_eq_true_iff.mp h
    unfold IsCommon at hcommon
    rw [Option.isNone_iff_eq_none.mp hexponent, Option.isNone_iff_eq_none.mp hfraction] at hcommon
    exact hcommon.resolve_left (by simp)
  unfold Yaml.readInteger value
  rw [splitNumber_chars, n.magnitudeChars_of_isInteger h, h]
  simp only [bind, Except.bind, n.readMagnitude_whole hlength]
  rfl

/-! ## Floating-point numbers -/

/-- The number with its exponent announced by a small letter. -/
def lower (n : Numeral) : Numeral :=
  { n with exponent := n.exponent.map fun e => { e with capital := false } }

theorem lower_chars : (Text.lower (.ofList n.chars)).toList = n.lower.chars := by
  have hascii : ∀ c ∈ numeralChars, c.toNat < 0x80 := List.all_iff_forall_prop.mp (by decide)
  have hdigits (ds : Digits) : ds.1.map Char.toLower = ds.1 :=
    (List.map_congr_left fun c hc =>
      of_isDigit (p := fun c => c.toLower = c) (by decide) (ds.2.2 c hc)).trans (List.map_id _)
  have hexponent (e : Exponent) :
      e.chars.map Char.toLower = ({ e with capital := false } : Exponent).chars := by
    obtain ⟨capital, sign, digits⟩ := e
    simp only [Exponent.chars, List.map_cons, List.map_append, hdigits]
    cases capital <;> cases sign with
    | none => rfl
    | some negative => cases negative <;> rfl
  have hmagnitude : n.magnitudeChars.map Char.toLower = n.lower.magnitudeChars := by
    unfold magnitudeChars lower
    rw [List.map_append, List.map_append, hdigits]
    cases n.fraction <;> cases n.exponent <;> simp [hdigits, hexponent]
  have hnegative : n.lower.negative = n.negative := rfl
  rw [Text.lower, String.toList_ofList, String.toList_ofList,
    Text.lowerAfter_of_ascii fun c hc => hascii c (n.mem_numeralChars_of_chars c hc)]
  unfold chars
  rw [← hmagnitude, hnegative]
  cases n.negative <;> rfl

theorem exponent?_exponent (hcommon : n.IsCommon) :
    ApiDoc.Numeral.exponent? (n.exponent.elim [] Exponent.chars) =
      some (n.exponent.elim 0 Exponent.value) := by
  unfold IsCommon at hcommon
  cases hexponent : n.exponent with
  | none => rfl
  | some e =>
    rw [hexponent] at hcommon
    obtain ⟨capital, sign, digits⟩ := e
    obtain ⟨negative, rfl⟩ := Option.isSome_iff_exists.mp hcommon.2
    have hall : digits.1.all Char.isDigit = true := List.all_eq_true.mpr digits.2.2
    unfold ApiDoc.Numeral.exponent?
    cases capital <;> cases negative <;>
      simp [Exponent.chars, Exponent.value, ApiDoc.Numeral.splitSign, digits.2.1, hall]

/-- The text of a number without its sign, read as a floating-point number. -/
theorem plainFloat?_magnitude (hcommon : n.IsCommon) {ds : Digits} (h : n.fraction = some ds) :
    ApiDoc.Numeral.plainFloat? n.magnitudeChars =
      some ({ n.decimal with negative := false } : Decimal).toBinary64 := by
  obtain ⟨d, cs, hmagnitude, hd⟩ := n.exists_magnitude
  -- A magnitude begins with a digit, so it is none of the names of special numbers.
  have hname {name : String}
      (hname : name.toList.head?.all (· ∉ digitChars.map Char.toLower) = true) :
      String.ofList (n.magnitudeChars.map Char.toLower) ≠ name := by
    rintro rfl
    rw [String.toList_ofList, hmagnitude] at hname
    exact of_decide_eq_true hname (List.mem_map_of_mem (mem_digitChars hd))
  have hsplit : ApiDoc.Numeral.splitSign n.magnitudeChars = (false, n.magnitudeChars) := by
    rw [hmagnitude]
    exact splitSign_of_isDigit hd
  have hchars :
      n.magnitudeChars = n.whole.1 ++ '.' :: (ds.1 ++ n.exponent.elim [] Exponent.chars) := by
    rw [magnitudeChars, h]
    rfl
  obtain ⟨hfront, hbehind⟩ := cut_append n.whole.2.2
    (r := '.' :: (ds.1 ++ n.exponent.elim [] Exponent.chars)) (by simp)
  rw [← hchars] at hfront hbehind
  obtain ⟨hfraction, hexponent⟩ := n.cut_fraction (p := Char.isDigit) (by decide) (by decide) ds
  unfold ApiDoc.Numeral.plainFloat?
  rw [hsplit]
  dsimp only
  rw [if_neg (not_or.mpr ⟨hname (by decide), hname (by decide)⟩), if_neg (hname (by decide)),
    hfront, hbehind]
  have hsome : ¬ (n.whole.1 = [] ∧ ds.1 = []) := fun hempty => n.whole.2.1 hempty.1
  have hplaces : n.places = ds.1 := by rw [places, h]; rfl
  simp only [hfraction, hexponent, if_neg hsome, n.exponent?_exponent hcommon, decimal, hplaces,
    Option.bind_eq_bind, Option.bind_some, Option.pure_def]

theorem isCommon_lower (hcommon : n.IsCommon) : n.lower.IsCommon := by
  unfold IsCommon at hcommon ⊢
  cases hexponent : n.exponent <;> simpa [lower, hexponent] using hcommon

theorem decimal_lower : n.lower.decimal = n.decimal := by
  unfold decimal lower places
  cases n.exponent <;> rfl

/-- The text of a number without its sign, in small letters. -/
theorem readFloatMagnitude_lower (hcommon : n.IsCommon) {ds : Digits} (h : n.fraction = some ds)
    (origin : Nat) :
    Yaml.readFloatMagnitude origin n.lower.magnitudeChars =
      .ok ({ n.decimal with negative := false } : Decimal).toBinary64 := by
  obtain ⟨d, cs, hmagnitude, hd⟩ := n.lower.exists_magnitude
  have hname {name : List Char} (hname : name.head?.all (· ∉ digitChars) = true) :
      n.lower.magnitudeChars ≠ name := by
    rintro rfl
    rw [hmagnitude] at hname
    exact of_decide_eq_true hname (mem_digitChars hd)
  -- Without a colon the text is no number to the base of sixty.
  have hcolon : n.lower.magnitudeChars.contains ':' = false := Bool.eq_false_iff.mpr fun h =>
    absurd (n.lower.mem_numeralChars_of_magnitude _ (List.contains_iff_mem.mp h)) (by decide)
  have hread := n.lower.plainFloat?_magnitude (n.isCommon_lower hcommon) h
  rw [decimal_lower] at hread
  have hnumber := Decimal.isNumber_toBinary64 { n.decimal with negative := false }
  unfold Yaml.readFloatMagnitude
  rw [if_neg (hname (by decide)), if_neg (hname (by decide)), hcolon, Yaml.readDecimal,
    usual_of_mem n.lower.mem_numeralChars_of_magnitude, hread]
  simp only [Bool.false_eq_true, if_false, bind, Except.bind, pure, Except.pure]
  cases hx : ({ n.decimal with negative := false } : Decimal).toBinary64 with
  | nan o =>
    rw [hx] at hnumber
    exact hnumber.elim
  | infinity | finite => rfl

/-- A number of the common part that is no integer is the one that is read. -/
theorem readFloat_chars (hcommon : n.IsCommon) (h : n.isInteger = false) (origin : Nat) :
    (Yaml.readFloat origin (.ofList n.chars)).map Number.float = .ok n.value := by
  obtain ⟨ds, hfraction⟩ :=
    Option.isSome_iff_exists.mp (Bool.and_eq_true_iff.mp ((n.isCommon_iff h).mp hcommon)).1
  have hnegative : n.lower.negative = n.negative := rfl
  have hsigned : n.decimal.toBinary64 =
      if n.negative then ({ n.decimal with negative := false } : Decimal).toBinary64.neg
      else ({ n.decimal with negative := false } : Decimal).toBinary64 := by
    rw [← Decimal.toBinary64_negative]
    unfold decimal
    cases n.negative <;> rfl
  unfold Yaml.readFloat value
  rw [lower_chars, splitNumber_chars, h, hnegative, hsigned]
  simp only [bind, Except.bind, n.readFloatMagnitude_lower hcommon hfraction origin]
  rfl

end Numeral

end Json

end ApiDoc
