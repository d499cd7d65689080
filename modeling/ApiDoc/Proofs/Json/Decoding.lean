import ApiDoc.Proofs.Json.Lines
import Mathlib.Data.List.Induction

/-!
# Decoding JSON texts

`Json.read?` decodes every text of the syntax to the value that it stands for. This holds of all
texts, in the part that JSON has in common with YAML and outside of it.

**What follows.** A number ends where no character of a number follows, so nothing is said about a
value without what stands behind it: white space, a comma, a bracket or the end (`EndsNumber`).

Main statement: `Source.read?_chars`.
-/

namespace ApiDoc

/-- Digits behind others shift these up. -/
theorem Text.decimal_append (cs ds : List Char) :
    Text.decimal (cs ++ ds) = Text.decimal cs * Decimal.tens ds.length + Text.decimal ds := by
  induction ds using List.reverseRecOn with
  | nil => simp [Text.decimal, Decimal.tens]
  | append_singleton ds d ih =>
    rw [← List.append_assoc, Text.decimal_concat, Text.decimal_concat, ih, List.length_append]
    have htens : Decimal.tens (ds.length + [d].length) = Decimal.tens ds.length * 10 :=
      Nat.pow_succ ..
    rw [htens]
    grind

namespace Json

/-! ## White space -/

def spaceChars : List Char := [' ', '\n', '\t', '\r']

theorem skipSpace_of_not_mem {c : Char} (hc : c ∉ spaceChars) (cs : List Char) :
    skipSpace (c :: cs) = c :: cs := by
  rw [skipSpace, if_neg]
  simpa [spaceChars] using hc

theorem skipSpace_chars (s : Space) (cs : List Char) :
    skipSpace (s.chars ++ cs) = skipSpace cs := by
  induction s with
  | nil => rfl
  | cons b s ih => cases b <;> exact ih

/-- White space is skipped up to what is none. -/
theorem Space.skipSpace_cons (s : Space) {c : Char} (hc : c ∉ spaceChars) (cs : List Char) :
    skipSpace (s.chars ++ c :: cs) = c :: cs := by
  rw [skipSpace_chars]
  exact skipSpace_of_not_mem hc cs

theorem skipSpace_skipSpace (cs : List Char) : skipSpace (skipSpace cs) = skipSpace cs := by
  induction cs with
  | nil => rfl
  | cons c cs ih =>
    by_cases hc : c ∈ spaceChars
    · have hskip : skipSpace (c :: cs) = skipSpace cs := by
        rw [skipSpace, if_pos]
        simpa [spaceChars] using hc
      rw [hskip, ih]
    · rw [skipSpace_of_not_mem hc, skipSpace_of_not_mem hc]

/-! ## Strings -/

/-- Two codes make one character when they are a pair, and else each of them is one of its own. -/
theorem readChars_units (a b c d a' b' c' d' : Char) (cs : List Char) :
    readChars ('\\' :: 'u' :: a :: b :: c :: d :: '\\' :: 'u' :: a' :: b' :: c' :: d' :: cs) = (do
      let high ← unit? a b c d
      let low ← unit? a' b' c' d'
      if 0xD800 ≤ high ∧ high < 0xDC00 ∧ 0xDC00 ≤ low ∧ low < 0xE000 then
        let (rest, left) ← readChars cs
        return (Char.ofNat (0x10000 + (high - 0xD800) * 0x400 + (low - 0xDC00)) :: rest, left)
      else
        let (rest, left) ← readChars ('\\' :: 'u' :: a' :: b' :: c' :: d' :: cs)
        return (Char.ofNat high :: rest, left)) := by
  rw [readChars]

/-- Another code follows, or none does. -/
theorem readChars_unit (a b c d : Char) (cs : List Char) :
    (∃ a' b' c' d' cs', cs = '\\' :: 'u' :: a' :: b' :: c' :: d' :: cs') ∨
      readChars ('\\' :: 'u' :: a :: b :: c :: d :: cs) =
        (unit? a b c d).bind fun n => (readChars cs).map fun p => (Char.ofNat n :: p.1, p.2) := by
  by_cases hpair : ∃ a' b' c' d' cs', cs = '\\' :: 'u' :: a' :: b' :: c' :: d' :: cs'
  · exact .inl hpair
  · refine .inr ?_
    rw [readChars.eq_4 a b c d cs fun a' b' c' d' cs' h => hpair ⟨a', b', c', d', cs', h⟩]
    cases unit? a b c d with
    | none => rfl
    | some n => cases readChars cs <;> rfl

theorem readChars_of_unit?_eq_none {a b c d : Char} (h : unit? a b c d = none) (cs : List Char) :
    readChars ('\\' :: 'u' :: a :: b :: c :: d :: cs) = none := by
  obtain ⟨a', b', c', d', cs', rfl⟩ | hread := readChars_unit a b c d cs
  · rw [readChars_units, h]
    rfl
  · rw [hread, h]
    rfl

/-- A code that is a character stands for it, whatever follows. -/
theorem readChars_code {a b c d : Char} {n : Nat} (h : unit? a b c d = some n)
    (hchar : n.isValidChar) (cs : List Char) :
    readChars ('\\' :: 'u' :: a :: b :: c :: d :: cs) = (readChars cs).map fun p =>
      (Char.ofNat n :: p.1, p.2) := by
  obtain ⟨a', b', c', d', cs', rfl⟩ | hread := readChars_unit a b c d cs
  · cases hlow : unit? a' b' c' d' with
    | none =>
      rw [readChars_units, h, hlow, readChars_of_unit?_eq_none hlow]
      rfl
    | some low =>
      have hno : ¬ (0xD800 ≤ n ∧ n < 0xDC00 ∧ 0xDC00 ≤ low ∧ low < 0xE000) := by
        simp only [Nat.isValidChar] at hchar
        omega
      rw [readChars_units, h, hlow]
      refine (if_neg hno).trans ?_
      cases readChars ('\\' :: 'u' :: a' :: b' :: c' :: d' :: cs') <;> rfl
  · rw [hread, h]
    rfl

theorem readChars_short {letter c : Char} (h : escape? letter = some c) (cs : List Char) :
    readChars ('\\' :: letter :: cs) = (readChars cs).map fun p => (c :: p.1, p.2) := by
  have hletter : letter ≠ 'u' := by
    rintro rfl
    cases h
  rw [readChars.eq_5 letter cs (fun _ _ _ _ _ _ _ _ _ hu => absurd hu hletter)
    (fun _ _ _ _ _ hu => absurd hu hletter), h]
  cases readChars cs <;> rfl

theorem readChars_raw {c : Char} (h : isRaw c = true) (cs : List Char) :
    readChars (c :: cs) = (readChars cs).map fun p => (c :: p.1, p.2) := by
  obtain ⟨⟨hlow, hquote⟩, hslash⟩ : (0x20 ≤ c.toNat ∧ c ≠ '"') ∧ c ≠ '\\' := by
    simpa [isRaw] using h
  rw [readChars.eq_6 c cs hquote (fun _ _ _ _ _ _ _ _ _ hc => absurd hc hslash)
    (fun _ _ _ _ _ hc => absurd hc hslash)
    (fun _ _ hc => absurd hc hslash), if_neg (by omega)]
  cases readChars cs <;> rfl

/-- A string is read up to its closing quote. -/
theorem readChars_letters (ls : List Letter) (rest : List Char) :
    readChars (letterChars ls ++ '"' :: rest) = some (ls.map Letter.value, rest) := by
  induction ls with
  | nil => rfl
  | cons l ls ih =>
    rw [letterChars, List.flatMap_cons, List.append_assoc, ← letterChars]
    cases l with
    | raw c h =>
      refine (readChars_raw h (letterChars ls ++ '"' :: rest)).trans ?_
      rw [ih]
      rfl
    | short letter c h =>
      refine (readChars_short h (letterChars ls ++ '"' :: rest)).trans ?_
      rw [ih]
      rfl
    | code a b c d n h hchar =>
      refine (readChars_code h hchar (letterChars ls ++ '"' :: rest)).trans ?_
      rw [ih]
      rfl

/-! ## Numbers -/

/-- What follows does not go on with a number. -/
def EndsNumber (rest : List Char) : Prop := ∀ c ∈ rest.head?, c ∉ numeralChars

theorem EndsNumber.head?_isDigit {rest : List Char} (h : EndsNumber rest) :
    ∀ c ∈ rest.head?, c.isDigit = false :=
  fun c hc => Bool.eq_false_iff.mpr fun hdigit => h c hc (mem_numeralChars hdigit)

theorem readDigits_digits (ds : Digits) {rest : List Char}
    (hrest : ∀ c ∈ rest.head?, c.isDigit = false) :
    readDigits (ds.1 ++ rest) = (Text.decimal ds.1, ds.1.length, rest) := by
  obtain ⟨htake, hdrop⟩ := cut_append ds.2.2 hrest
  unfold readDigits
  rw [htake, hdrop]

theorem Digits.exists_length (ds : Digits) : ∃ k, ds.1.length = k + 1 :=
  Nat.exists_eq_add_one.mpr (List.length_pos_iff.mpr ds.2.1)

/-- A letter with digits behind it, which may have a sign, is an exponent. -/
theorem readExponent_cons {e : Char} (he : e = 'e' ∨ e = 'E') {cs left : List Char} {n count : Nat}
    (hdigits : readDigits (ApiDoc.Numeral.splitSign cs).2 = (n, count + 1, left)) :
    readExponent (e :: cs) =
      (some (if (ApiDoc.Numeral.splitSign cs).1 then -(n : Int) else n), left) := by
  unfold readExponent
  dsimp only
  rw [if_pos he]
  unfold ApiDoc.Numeral.splitSign at hdigits ⊢
  split at hdigits <;> simp only [hdigits]

theorem readExponent_chars (e : Exponent) {rest : List Char} (hrest : EndsNumber rest) :
    readExponent (e.chars ++ rest) = (some e.value, rest) := by
  have hletter : ∀ capital : Bool,
      (if capital then 'E' else 'e') = 'e' ∨ (if capital then 'E' else 'e') = 'E' := by
    decide
  have hdigits := readDigits_digits e.digits hrest.head?_isDigit
  obtain ⟨k, hlength⟩ := e.digits.exists_length
  rw [hlength] at hdigits
  have hsign : ApiDoc.Numeral.splitSign
      ((e.sign.elim [] fun negative => if negative then ['-'] else ['+']) ++
      (e.digits.1 ++ rest)) = (decide (e.sign = some true), e.digits.1 ++ rest) := by
    cases e.sign with
    | some negative => cases negative <;> rfl
    | none =>
      obtain ⟨d, ds, hcons, hd, -⟩ := e.digits.exists_cons
      rw [hcons]
      exact Numeral.splitSign_of_isDigit hd
  rw [Exponent.chars, List.cons_append, List.append_assoc,
    readExponent_cons (hletter _) ((congrArg (readDigits ·.2) hsign).trans hdigits), hsign]
  exact congrArg (fun x => (some x, rest)) (if_congr decide_eq_true_iff rfl rfl)

theorem readExponent_of_endsNumber {rest : List Char} (hrest : EndsNumber rest) :
    readExponent rest = (none, rest) := by
  cases rest with
  | nil => rfl
  | cons c cs =>
    have hc : ¬ (c = 'e' ∨ c = 'E') := by
      have hnumeral := hrest c rfl
      rintro (rfl | rfl) <;> exact hnumeral (by decide)
    unfold readExponent
    dsimp only
    rw [if_neg hc]

namespace Numeral

variable (n : Numeral) {rest : List Char}

/-- What stands behind the digits of a number is read as its exponent. -/
theorem readExponent_tail (hrest : EndsNumber rest) :
    readExponent (n.exponent.elim [] Exponent.chars ++ rest) =
      (n.exponent.map Exponent.value, rest) := by
  cases n.exponent with
  | none => exact readExponent_of_endsNumber hrest
  | some e => exact readExponent_chars e hrest

/-- The digits behind the point are read up to the exponent. -/
theorem readFraction_tail (hrest : EndsNumber rest) :
    readFraction
      (n.fraction.elim [] (fun ds => '.' :: ds.1) ++ (n.exponent.elim [] Exponent.chars ++ rest)) =
      (Text.decimal n.places, n.places.length, n.exponent.elim [] Exponent.chars ++ rest) := by
  unfold places
  cases n.fraction with
  | none =>
    have hpoint := n.head?_exponent (p := fun c => c ≠ '.') (by decide) fun c hc heq =>
      hrest c hc (heq ▸ List.mem_cons_self)
    unfold readFraction
    split
    · rename_i heq
      exact absurd rfl (hpoint '.' (heq ▸ rfl))
    · rfl
  | some ds =>
    have hend := n.head?_exponent (p := fun c => c.isDigit = false) ⟨rfl, rfl⟩ hrest.head?_isDigit
    have hdigits := readDigits_digits ds hend
    obtain ⟨k, hlength⟩ := ds.exists_length
    rw [hlength] at hdigits
    generalize n.exponent.elim [] Exponent.chars ++ rest = tail at hdigits ⊢
    simp only [Option.elim, List.cons_append, readFraction, hdigits, hlength]

/-- An integer has no places and no exponent. -/
theorem isInteger_iff :
    n.isInteger = true ↔ n.places.length = 0 ∧ n.exponent.map Exponent.value = none := by
  have hfraction : n.fraction.isNone = true ↔ n.places.length = 0 := by
    unfold places
    cases n.fraction with
    | none => exact iff_of_true rfl rfl
    | some ds =>
      obtain ⟨k, hlength⟩ := ds.exists_length
      exact iff_of_false Bool.false_ne_true fun h => Nat.succ_ne_zero _ (hlength.symm.trans h)
  rw [isInteger, Bool.and_eq_true_iff, hfraction, Option.map_eq_none_iff, Option.isNone_iff_eq_none]

theorem readMagnitude_chars (hrest : EndsNumber rest) :
    readMagnitude n.negative (n.magnitudeChars ++ rest) = some (.number n.value, rest) := by
  -- The run of digits ends with the whole part: what follows begins with no digit.
  have hbehind : ∀ c ∈ (n.fraction.elim [] (fun ds => '.' :: ds.1) ++
      (n.exponent.elim [] Exponent.chars ++ rest)).head?, c.isDigit = false := by
    cases n.fraction with
    | none =>
      exact n.head?_exponent (p := fun c => c.isDigit = false) ⟨rfl, rfl⟩ hrest.head?_isDigit
    | some ds => exact fun c hc => Option.some.inj hc ▸ rfl
  have hwhole := readDigits_digits n.whole hbehind
  obtain ⟨k, hlength⟩ := n.whole.exists_length
  rw [hlength] at hwhole
  have hmagnitude :
      n.magnitudeChars ++ rest = n.whole.1 ++ (n.fraction.elim [] (fun ds => '.' :: ds.1) ++
      (n.exponent.elim [] Exponent.chars ++ rest)) := by
    rw [magnitudeChars, List.append_assoc, List.append_assoc]
  rw [hmagnitude]
  simp only [readMagnitude, hwhole, n.readFraction_tail hrest, n.readExponent_tail hrest]
  unfold value decimal
  have hexponent : (n.exponent.map Exponent.value).getD 0 = n.exponent.elim 0 Exponent.value := by
    cases n.exponent <;> rfl
  rw [Text.decimal_append, hexponent]
  by_cases hinteger : n.isInteger = true
  · rw [if_pos (n.isInteger_iff.mp hinteger), if_pos hinteger]
  · rw [if_neg fun h => hinteger (n.isInteger_iff.mpr h), if_neg hinteger]

/-- A number is read up to where it ends. -/
theorem readNumber_chars (hrest : EndsNumber rest) :
    readNumber (n.chars ++ rest) = some (.number n.value, rest) := by
  have hread := n.readMagnitude_chars hrest
  unfold chars
  cases hnegative : n.negative with
  | true =>
    rw [hnegative] at hread
    exact hread
  | false =>
    rw [hnegative] at hread
    obtain ⟨d, cs, hmagnitude, hd⟩ := n.exists_magnitude
    rw [if_neg Bool.false_ne_true]
    rw [hmagnitude] at hread ⊢
    unfold readNumber
    split
    · rename_i heq
      cases heq
      cases hd
    · exact hread

end Numeral

/-! ## Values -/

theorem endsNumber_cons {c : Char} (hc : c ∉ numeralChars) (cs : List Char) :
    EndsNumber (c :: cs) :=
  fun _ h => Option.some.inj h ▸ hc

theorem endsNumber_append (s : Space) {rest : List Char} (h : EndsNumber rest) :
    EndsNumber (s.chars ++ rest) := by
  cases s with
  | nil => exact h
  | cons b s => cases b <;> exact endsNumber_cons (by decide) _

/-- White space before a value is skipped up to the value. -/
theorem Tree.skipSpace_written (t : Tree) (before : Space) (rest : List Char) :
    skipSpace (before.chars ++ (t.written Space.chars ++ rest)) =
      t.written Space.chars ++ rest := by
  obtain ⟨c, cs, hwritten, hc⟩ := t.exists_startChar Space.chars
  have hstart : ∀ c ∈ startChars, c ∉ spaceChars := List.all_iff_forall_prop.mp (by decide)
  rw [skipSpace_chars, hwritten]
  exact skipSpace_of_not_mem (hstart c hc) _

theorem readValue_skipSpace (fuel : Nat) (cs : List Char) :
    readValue fuel (skipSpace cs) = readValue fuel cs := by
  cases fuel with
  | zero => rfl
  | succ fuel => rw [readValue, readValue, skipSpace_skipSpace]

theorem readItems_skipSpace (fuel : Nat) (cs : List Char) :
    readItems fuel (skipSpace cs) = readItems fuel cs := by
  cases fuel with
  | zero => rfl
  | succ fuel => rw [readItems, readItems, readValue_skipSpace]

theorem readEntries_skipSpace (fuel : Nat) (cs : List Char) :
    readEntries fuel (skipSpace cs) = readEntries fuel cs := by
  cases fuel with
  | zero => rfl
  | succ fuel => rw [readEntries, readEntries, skipSpace_skipSpace]

/-- A value without parts. -/
theorem readValue_scalar (x : Scalar) {rest : List Char} (hrest : EndsNumber rest) (before : Space)
    (fuel : Nat) :
    readValue (fuel + 1) (before.chars ++ (x.chars ++ rest)) = some (x.value, rest) := by
  have hskip := (Tree.scalar x).skipSpace_written before rest
  rw [Tree.written] at hskip
  rw [readValue, hskip]
  cases x with
  | null => rfl
  | bool b => cases b <;> rfl
  | string ls =>
    have hread := readChars_letters ls rest
    simp only [Scalar.chars, stringChars, List.cons_append, List.append_assoc, List.nil_append,
      hread]
    rfl
  | number n =>
    have hread := n.readNumber_chars hrest
    obtain ⟨c, cs, hchars, hc⟩ := n.exists_chars
    -- A numeral begins with a character that opens none of the other values.
    have hother : ∀ c ∈ '-' :: digitChars, c ∉ ['"', '[', '\x7b', 't', 'f', 'n'] :=
      List.all_iff_forall_prop.mp (by decide)
    have hother := hother c hc
    rw [hchars, List.cons_append] at hread
    rw [Scalar.chars, hchars, List.cons_append]
    split
    case h_7 => exact hread
    all_goals
      rename_i heq
      cases heq
      exact absurd (by decide) hother

theorem Items.exists_skipSpace (items : Items) (rest : List Char) :
    ∃ c cs, skipSpace (items.written Space.chars ++ rest) = c :: cs ∧ c ∈ startChars := by
  cases items with
  | last before item after | more before item after others =>
    obtain ⟨c, cs, hwritten, hc⟩ := item.exists_startChar Space.chars
    rw [Items.written, List.append_assoc, List.append_assoc, item.skipSpace_written, hwritten]
    exact ⟨c, _, rfl, hc⟩

theorem Members.exists_skipSpace (members : Members) (rest : List Char) :
    ∃ cs, skipSpace (members.written Space.chars ++ rest) = '"' :: cs := by
  cases members with
  | last key before item after | more key before item after others =>
    rw [Members.written, Key.written, stringChars, List.append_assoc, List.append_assoc,
      skipSpace_chars]
    exact ⟨_, skipSpace_of_not_mem (by decide) _⟩

/-- A key is read up to the value behind it. -/
theorem readEntries_key (key : Key) (fuel : Nat) (rest : List Char) :
    readEntries (fuel + 1) (key.written Space.chars ++ rest) = (do
      let (v, left) ← readValue fuel rest
      match skipSpace left with
      | ',' :: left =>
        let (es, left) ← readEntries fuel left
        return ((.str (stringValue key.letters), v) :: es, left)
      | '\x7d' :: left => return ([(.str (stringValue key.letters), v)], left)
      | _ => none) := by
  have hquote : skipSpace (key.written Space.chars ++ rest) =
      '"' :: (letterChars key.letters ++ '"' :: (key.after.chars ++ ':' :: rest)) := by
    rw [Key.written, stringChars, List.append_assoc]
    simp only [List.cons_append, List.append_assoc, List.nil_append]
    exact key.before.skipSpace_cons (by decide) _
  have hcolon := key.after.skipSpace_cons (c := ':') (by decide) rest
  rw [readEntries, hquote]
  simp only [readChars_letters, Option.bind_eq_bind, Option.bind_some, hcolon]
  rfl

mutual

/-- A value is read behind its white space. -/
theorem readValue_tree (t : Tree) (rest : List Char) (hrest : EndsNumber rest) (before : Space)
    (fuel : Nat) (hfuel : (t.written Space.chars).length < fuel) :
    readValue fuel (before.chars ++ (t.written Space.chars ++ rest)) = some (t.value, rest) := by
  obtain ⟨fuel, rfl⟩ : ∃ m, fuel = m + 1 := ⟨fuel - 1, by omega⟩
  have hskip := t.skipSpace_written before rest
  -- The recursion is over the tree; the fuel outnumbers the characters that are left.
  cases t with
  | scalar x => exact readValue_scalar x hrest before fuel
  | emptyArray space =>
    rw [readValue, hskip]
    simp only [Tree.written, List.cons_append, List.append_assoc, List.nil_append, skipSpace_chars]
    rfl
  | array items =>
    have hread := readItems_items items rest fuel (by simp [Tree.written] at hfuel; omega)
    obtain ⟨c, cs, hcons, hc⟩ := items.exists_skipSpace (']' :: rest)
    rw [← readItems_skipSpace, hcons] at hread
    rw [readValue, hskip]
    simp only [Tree.written, List.cons_append, List.append_assoc, List.nil_append, hcons]
    split
    · rename_i heq
      cases heq
      exact absurd hc (by decide)
    · rw [hread]
      rfl
  | emptyObject space =>
    rw [readValue, hskip]
    simp only [Tree.written, List.cons_append, List.append_assoc, List.nil_append, skipSpace_chars]
    rfl
  | object members =>
    have hread := readEntries_members members rest fuel (by simp [Tree.written] at hfuel; omega)
    obtain ⟨cs, hcons⟩ := members.exists_skipSpace ('\x7d' :: rest)
    rw [← readEntries_skipSpace, hcons] at hread
    rw [readValue, hskip]
    simp only [Tree.written, List.cons_append, List.append_assoc, List.nil_append, hcons]
    split
    · rename_i heq
      cases heq
    · rw [hread]
      rfl

/-- Items are read up to the bracket that closes them. -/
theorem readItems_items (items : Items) (rest : List Char) (fuel : Nat)
    (hfuel : (items.written Space.chars).length + 1 < fuel) :
    readItems fuel (items.written Space.chars ++ ']' :: rest) = some (items.values, rest) := by
  obtain ⟨fuel, rfl⟩ : ∃ m, fuel = m + 1 := ⟨fuel - 1, by omega⟩
  cases items with
  | last before item after =>
    simp only [Items.written, List.length_append] at hfuel
    have hread := readValue_tree item (after.chars ++ ']' :: rest)
      (endsNumber_append after (endsNumber_cons (by decide) rest)) before fuel (by omega)
    have hclose := after.skipSpace_cons (c := ']') (by decide) rest
    simp only [Items.written, List.append_assoc, readItems, hread, Option.bind_eq_bind,
      Option.bind_some, hclose]
    rfl
  | more before item after others =>
    simp only [Items.written, List.length_append, List.length_cons] at hfuel
    have hread :=
      readValue_tree item (after.chars ++ ',' :: (others.written Space.chars ++ ']' :: rest))
        (endsNumber_append after (endsNumber_cons (by decide) _)) before fuel (by omega)
    have hothers := readItems_items others rest fuel (by omega)
    have hcomma := after.skipSpace_cons (c := ',') (by decide)
    simp only [Items.written, List.append_assoc, List.cons_append, readItems, hread,
      Option.bind_eq_bind, Option.bind_some, hcomma, hothers]
    rfl

/-- Entries are read up to the bracket that closes them. -/
theorem readEntries_members (members : Members) (rest : List Char) (fuel : Nat)
    (hfuel : (members.written Space.chars).length + 1 < fuel) :
    readEntries fuel (members.written Space.chars ++ '\x7d' :: rest) =
      some (members.entries, rest) := by
  obtain ⟨fuel, rfl⟩ : ∃ m, fuel = m + 1 := ⟨fuel - 1, by omega⟩
  cases members with
  | last key before item after =>
    simp only [Members.written, List.length_append] at hfuel
    have hread := readValue_tree item (after.chars ++ '\x7d' :: rest)
      (endsNumber_append after (endsNumber_cons (by decide) rest)) before fuel (by omega)
    have hclose := after.skipSpace_cons (c := '\x7d') (by decide) rest
    simp only [Members.written, List.append_assoc, readEntries_key, hread, Option.bind_eq_bind,
      Option.bind_some, hclose]
    rfl
  | more key before item after others =>
    simp only [Members.written, List.length_append, List.length_cons] at hfuel
    have hread :=
      readValue_tree item (after.chars ++ ',' :: (others.written Space.chars ++ '\x7d' :: rest))
        (endsNumber_append after (endsNumber_cons (by decide) _)) before fuel (by omega)
    have hothers := readEntries_members others rest fuel (by omega)
    have hcomma := after.skipSpace_cons (c := ',') (by decide)
    simp only [Members.written, List.append_assoc, List.cons_append, readEntries_key, hread,
      Option.bind_eq_bind, Option.bind_some, hcomma, hothers]
    rfl

end

/-- A text is decoded to what it stands for. -/
theorem Source.read?_chars (x : Source) : read? (.ofList x.chars) = some x.value := by
  have hread := readValue_tree x.tree (x.after.chars ++ [])
    (endsNumber_append x.after (by simp [EndsNumber])) x.before (x.chars.length + 1)
    (by simp only [chars, written, List.length_append]; omega)
  have hafter : skipSpace x.after.chars = [] := by
    have hskip := skipSpace_chars x.after []
    rwa [List.append_nil] at hskip
  rw [List.append_nil] at hread
  unfold read?
  rw [String.toList_ofList]
  dsimp only
  rw [show readValue (x.chars.length + 1) x.chars = _ from hread]
  dsimp only
  rw [hafter]
  rfl

end Json

end ApiDoc
