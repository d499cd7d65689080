import ApiDoc.Proofs.Yaml.Numerals
import ApiDoc.Yaml.GraphReader

/-!
# Scalars of JSON in YAML

A scalar of the common part is one token, and this token stands for the value that is meant. A
string is a scalar in double quotes: its escapes mean the same (`doubleQuoted_letters`), and blanks
inside a line stay.

Main statements: `Scalar.value?_vertex` and `doubleQuoted_letters`.
-/

namespace ApiDoc.Json

open Yaml

/-! ## Strings -/

theorem escape?_of_escape? {letter c : Char} (h : escape? letter = some c) :
    Yaml.Scalar.escape? letter = some c := by
  unfold escape? at h
  repeat' split at h
  · rename_i hletter
    obtain rfl | rfl | rfl := hletter <;> exact h
  all_goals try subst_vars; exact h
  cases h

theorem exists_hexValue? {a b c d : Char} {n : Nat} (h : unit? a b c d = some n) :
    ∃ x y z w, Text.hexValue? a = some x ∧ Text.hexValue? b = some y ∧ Text.hexValue? c = some z ∧
      Text.hexValue? d = some w ∧ ((x * 16 + y) * 16 + z) * 16 + w = n := by
  simp only [unit?, Option.bind_eq_bind, Option.bind_eq_some_iff, Option.pure_def,
    Option.some.injEq] at h
  obtain ⟨x, hx, y, hy, z, hz, w, hw, rfl⟩ := h
  exact ⟨x, y, z, w, hx, hy, hz, hw, rfl⟩

/-- A code of four digits is read as one. -/
theorem doubleQuoted_code {a b c d : Char} {n : Nat} (h : unit? a b c d = some n)
    (hchar : n.isValidChar) (rest : List Char) :
    Yaml.Scalar.doubleQuoted .escaped ('u' :: a :: b :: c :: d :: rest) =
      Yaml.Scalar.onto [] (Yaml.Scalar.onto [] (Yaml.Scalar.onto [] (Yaml.Scalar.onto []
        (Yaml.Scalar.onto [n] (Yaml.Scalar.doubleQuoted (.text .none) rest))))) := by
  obtain ⟨x, y, z, w, ha, hb, hc, hd, rfl⟩ := exists_hexValue? h
  have hcode : Yaml.Scalar.checkCode (((x * 16 + y) * 16 + z) * 16 + w) = .ok () := by
    refine if_neg (Nat.not_lt.mpr ?_)
    rcases hchar with hlow | ⟨-, hhigh⟩ <;> omega
  have hletter : Yaml.Scalar.escape? 'u' = none ∧ Yaml.Scalar.codeLength? 'u' = some 4 := by decide
  simp [Yaml.Scalar.doubleQuoted, hletter.1, hletter.2, ha, hb, hc, hd, hcode]

theorem toNat_ofNat {n : Nat} (h : n.isValidChar) : (Char.ofNat n).toNat = n := by
  rw [Char.ofNat, dif_pos h]
  rfl

theorem onto_ok {α : Type} (front back : List α) (n : Nat) :
    Yaml.Scalar.onto front (.ok (back, n)) = .ok (front ++ back, n + 1) := rfl

/-- Blanks before a place in a line of a quoted scalar. -/
def IsLineGap (gap : Gap) : Prop := gap.hasBreak = false

theorem isLineGap_addBlank {gap : Gap} (h : IsLineGap gap) (c : Char) :
    IsLineGap (gap.addBlank c) ∧ (gap.addBlank c).value = gap.value ++ [c] := by
  cases gap with
  | none => exact ⟨rfl, rfl⟩
  | blanks cs => exact ⟨rfl, rfl⟩
  | breaks | joined => cases h

/-! The next character of a string decides how it goes on. -/

theorem doubleQuoted_space (gap : Gap) (cs : List Char) :
    Yaml.Scalar.doubleQuoted (.text gap) (' ' :: cs) =
      Yaml.Scalar.onto [] (Yaml.Scalar.doubleQuoted (.text (gap.addBlank ' ')) cs) := rfl

theorem doubleQuoted_backslash (gap : Gap) (cs : List Char) :
    Yaml.Scalar.doubleQuoted (.text gap) ('\\' :: cs) =
      Yaml.Scalar.onto (Yaml.Scalar.codes gap.value) (Yaml.Scalar.doubleQuoted .escaped cs) := rfl

theorem doubleQuoted_raw {c : Char} (hraw : isRaw c = true) (hbreak : isBreak c = false)
    (hspace : c ≠ ' ') (gap : Gap) (cs : List Char) :
    Yaml.Scalar.doubleQuoted (.text gap) (c :: cs) =
      Yaml.Scalar.onto (Yaml.Scalar.codes (gap.value ++ [c]))
        (Yaml.Scalar.doubleQuoted (.text .none) cs) := by
  simp only [isRaw, Bool.and_eq_true, decide_eq_true_eq] at hraw
  obtain ⟨⟨hc, hquote⟩, hslash⟩ := hraw
  have htab : c ≠ '\t' := by
    rintro rfl
    exact absurd hc (by decide)
  have hblank : isBlank c = false := by simp [isBlank, hspace, htab]
  rw [Yaml.Scalar.doubleQuoted, hblank, hbreak, if_neg Bool.false_ne_true,
    if_neg Bool.false_ne_true, if_neg hquote, if_neg hslash]

theorem doubleQuoted_short {letter c : Char} (h : escape? letter = some c) (cs : List Char) :
    Yaml.Scalar.doubleQuoted .escaped (letter :: cs) =
      Yaml.Scalar.onto [c.toNat] (Yaml.Scalar.doubleQuoted (.text .none) cs) := by
  rw [Yaml.Scalar.doubleQuoted, escape?_of_escape? h]

/-- A letter is read into its code, behind the blanks that came before it. -/
theorem doubleQuoted_letter {l : Letter} (hl : l.IsCommon) (hspace : l.chars ≠ [' ']) (gap : Gap)
    {rest : List Char} {back : List Nat} {n : Nat}
    (h : Yaml.Scalar.doubleQuoted (.text .none) rest = .ok (back, n)) :
    Yaml.Scalar.doubleQuoted (.text gap) (l.chars ++ rest) =
      .ok (Yaml.Scalar.codes (gap.value ++ [l.value]) ++ back, n + l.chars.length) := by
  cases l with
  | raw c hraw =>
    have hne : c ≠ ' ' := by
      rintro rfl
      exact hspace rfl
    rw [Letter.chars, List.singleton_append, doubleQuoted_raw hraw hl.2 hne, h, onto_ok]
    rfl
  | short letter c hletter =>
    rw [Letter.chars, List.cons_append, List.singleton_append, doubleQuoted_backslash,
      doubleQuoted_short hletter, h, onto_ok, onto_ok]
    simp [Yaml.Scalar.codes, Letter.value]
  | code a b c d n hunit hchar =>
    simp only [Letter.chars, List.cons_append, List.nil_append]
    rw [doubleQuoted_backslash, doubleQuoted_code hunit hchar, h]
    simp [onto_ok, Yaml.Scalar.codes, Letter.value, toNat_ofNat hchar]

/-- The characters of a string, up to its closing quote. -/
theorem doubleQuoted_letters {ls : List Letter} (hls : ∀ l ∈ ls, l.IsCommon) {gap : Gap}
    (hgap : IsLineGap gap) (rest : List Char) :
    Yaml.Scalar.doubleQuoted (.text gap) (letterChars ls ++ '"' :: rest) =
      .ok (Yaml.Scalar.codes (gap.value ++ ls.map Letter.value), (letterChars ls).length + 1) := by
  induction ls generalizing gap with
  | nil =>
    rw [List.map_nil, List.append_nil]
    rfl
  | cons l ls ih =>
    obtain ⟨hl, hls'⟩ := List.forall_mem_cons.mp hls
    have hcons : letterChars (l :: ls) = l.chars ++ letterChars ls := List.flatMap_cons
    rw [hcons, List.append_assoc]
    by_cases hspace : l.chars = [' ']
    · -- A blank waits in the gap until something follows it in its line.
      have hvalue : l.value = ' ' := by
        cases l <;> simp_all [Letter.chars, Letter.value]
      obtain ⟨hgap', hgapValue⟩ := isLineGap_addBlank hgap ' '
      rw [hspace, List.singleton_append, doubleQuoted_space, ih hls' hgap', onto_ok, hgapValue]
      simp [hvalue, Nat.add_comm]
    · have hnone : IsLineGap .none := rfl
      rw [doubleQuoted_letter hl hspace gap (ih hls' hnone)]
      simp only [Yaml.Scalar.codes, Gap.value, List.map_append, List.map_cons, List.map_nil,
        List.nil_append, List.append_assoc, List.cons_append, List.length_append, Except.ok.injEq,
        Prod.mk.injEq, true_and]
      omega

theorem ofCodes_codes (cs : List Char) :
    Lexing.ofCodes (Yaml.Scalar.codes cs) = .scalar false (.ofList cs) := by
  have hall : (Yaml.Scalar.codes cs).all (·.isValidChar) = true :=
    List.all_eq_true.mpr fun n hn => by
      obtain ⟨c, -, rfl⟩ := List.mem_map.mp hn
      exact decide_eq_true c.valid
  have hmap : (Yaml.Scalar.codes cs).map Char.ofNat = cs := by
    rw [Yaml.Scalar.codes, List.map_map]
    exact (List.map_congr_left fun c _ => Char.ofNat_toNat c).trans (List.map_id cs)
  rw [Lexing.ofCodes, if_pos hall, hmap]

/-! ## Tokens and their values -/

namespace Scalar

def token : Scalar → Token
  | string ls => .scalar false (stringValue ls)
  | s => .scalar true (.ofList s.chars)

def tag : Scalar → Tag
  | null => .null
  | bool _ => .bool
  | number n => if n.isInteger then .int else .float
  | string _ => .str

/-- The text of a scalar as a token has it. -/
def text : Scalar → String
  | string ls => stringValue ls
  | s => .ofList s.chars

def vertex (s : Scalar) : Vertex := .scalar s.tag s.text

/-- A scalar is plain unless it is a string, and its type is the one that its text shows. -/
theorem token_eq {s : Scalar} (hs : s.IsCommon) :
    ∃ plain, s.token = .scalar plain s.text ∧ Grow.scalarTag plain none s.text = s.tag := by
  cases s with
  | null => exact ⟨true, rfl, by decide⟩
  | bool b => exact ⟨true, rfl, by cases b <;> decide⟩
  | number n =>
    have hcommon : n.IsCommon := hs
    have hshown := n.ofPlain_chars
    rw [if_pos hcommon] at hshown
    exact ⟨true, rfl, hshown⟩
  | string ls => exact ⟨false, rfl, rfl⟩

/-- The text of a scalar has the value that is meant. -/
theorem value?_vertex {s : Scalar} (hs : s.IsCommon) (id : Nat) :
    Yaml.Scalar.value? id s.tag s.text = some (.ok s.value) := by
  cases s with
  | null | string => rfl
  | bool b => cases b <;> rfl
  | number n =>
    simp only [tag, text, value, chars]
    have hvalue {x : Number} (hx : x = n.value) :
        some (Except.ok (Value.number x) : Except Yaml.Error Value) =
        some (.ok (.number n.value)) := by rw [hx]
    -- The tag chosen for the numeral decides which of the two readers it goes to.
    cases h : n.isInteger with
    | true =>
      have hread := n.readInteger_chars hs h
      rw [← String.toList_ofList (l := n.chars)] at hread
      rw [if_pos rfl, Yaml.Scalar.value?]
      cases hx : readInteger (String.ofList n.chars).toList with
      | error e => rw [hx] at hread; cases hread
      | ok x =>
        rw [hx] at hread
        exact hvalue (Except.ok.inj hread)
    | false =>
      have hread := n.readFloat_chars hs h (id + 1)
      rw [if_neg Bool.false_ne_true, Yaml.Scalar.value?]
      cases hx : readFloat (id + 1) (String.ofList n.chars) with
      | error e => rw [hx] at hread; cases hread
      | ok x =>
        rw [hx] at hread
        exact hvalue (Except.ok.inj hread)

end Scalar

end ApiDoc.Json
