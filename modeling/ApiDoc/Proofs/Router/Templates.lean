import Mathlib.Data.List.TakeWhile
import ApiDoc.Proofs.Router.Joining

/-!
# Names of parameters in paths

A path names a parameter in one of two ways: behind a colon, where the name goes on as long as there
are word characters (`Path.BehindColon`), or in braces (`Path.InBraces`). A joined path is searched
for names in braces only, after the names behind colons have been put in braces.

No name is lost by that and none is made (`Path.inBraces_braced`). A brace that is written goes
around a whole name, and an opening brace that was there before is never closed by one that is
written, for the name before that one has an opening brace of its own.

A slash is no part of a name and closes nothing, so a path has the names of its segments, and it
does not matter how many slashes stand between them (`Path.namesParameter_iff_segments`).

Main statement: `Path.mem_templateNames_join`.
-/

namespace ApiDoc.Path

open Text (isWord)

/-- A text can be the name of a parameter. -/
def IsName (w : List Char) : Prop := w ≠ [] ∧ ∀ c ∈ w, isWord c = true

/-- A text has a name in braces. -/
def InBraces (cs w : List Char) : Prop := IsName w ∧ '\x7b' :: (w ++ ['\x7d']) <:+: cs

/-- A text has a colon, and the word characters behind it are a name. -/
def BehindColon (cs w : List Char) : Prop :=
  w ≠ [] ∧ ∃ behind, ':' :: behind <:+ cs ∧ w = behind.takeWhile isWord

def NamesParameter (cs w : List Char) : Prop := BehindColon cs w ∨ InBraces cs w

/-- A text begins with what is left of a name and a closing brace. What came before it of the name
is reversed. -/
def Closes (name cs w : List Char) : Prop := ∃ v, w = name.reverse ++ v ∧ v ++ ['\x7d'] <+: cs

variable {c : Char} {cs ds name w : List Char}

/-! ## Names, one character after the other -/

theorem isWord_closing : isWord '\x7d' = false := by decide +kernel

theorem not_closes_nil : ¬ Closes name [] w := by
  rintro ⟨v, -, hprefix⟩
  simp at hprefix

theorem closes_cons :
    Closes name (c :: cs) w ↔ c = '\x7d' ∧ w = name.reverse ∨ Closes (c :: name) cs w := by
  constructor
  · rintro ⟨v, rfl, hprefix⟩
    cases v with
    | nil => exact .inl ⟨(List.cons_prefix_cons.mp hprefix).1.symm, List.append_nil _⟩
    | cons d v =>
      obtain ⟨rfl, hrest⟩ := List.cons_prefix_cons.mp hprefix
      exact .inr ⟨v, by simp, hrest⟩
  · rintro (⟨rfl, rfl⟩ | ⟨v, rfl, hprefix⟩)
    · exact ⟨[], (List.append_nil _).symm, List.cons_prefix_cons.mpr ⟨rfl, List.nil_prefix⟩⟩
    · exact ⟨c :: v, by simp, List.cons_prefix_cons.mpr ⟨rfl, hprefix⟩⟩

/-- What has been read of a name are word characters. -/
theorem IsName.isWord_of_closes (hw : IsName w) (h : Closes (c :: name) cs w) :
    isWord c = true := by
  obtain ⟨v, rfl, -⟩ := h
  exact hw.2 c (by simp)

/-- A name does not go on with a character that is none of a word. -/
theorem IsName.not_closes (hw : IsName w) (hc : isWord c = false) : ¬ Closes (c :: name) cs w :=
  fun h => by
  rw [hw.isWord_of_closes h] at hc
  cases hc

/-- What has been read of a name is all of it where no word character follows. -/
theorem isName_and_closes_iff (hc : isWord c = false) (hname : ∀ d ∈ name, isWord d = true) :
    IsName w ∧ (c = '\x7d' ∧ w = name.reverse ∨ Closes (c :: name) cs w) ↔
      (c = '\x7d' ∧ name ≠ []) ∧ w = name.reverse := by
  constructor
  · rintro ⟨hw, ⟨hclosing, rfl⟩ | hcloses⟩
    · exact ⟨⟨hclosing, by simpa using hw.1⟩, rfl⟩
    · exact absurd hcloses (hw.not_closes hc)
  · rintro ⟨⟨hclosing, hne⟩, rfl⟩
    exact ⟨⟨by simpa using hne, by simpa using hname⟩, .inl ⟨hclosing, rfl⟩⟩

theorem inBraces_nil : ¬ InBraces [] w := by
  rintro ⟨-, hinfix⟩
  simp at hinfix

theorem inBraces_cons :
    InBraces (c :: cs) w ↔ IsName w ∧ c = '\x7b' ∧ Closes [] cs w ∨ InBraces cs w := by
  have hcloses : Closes [] cs w ↔ w ++ ['\x7d'] <+: cs := by simp [Closes]
  unfold InBraces
  rw [List.infix_cons_iff, List.cons_prefix_cons, hcloses, and_or_left, eq_comm (a := c)]

theorem inBraces_cons_of_ne (hc : c ≠ '\x7b') : InBraces (c :: cs) w ↔ InBraces cs w := by
  rw [inBraces_cons]
  simp [hc]

theorem behindColon_nil : ¬ BehindColon [] w := by
  rintro ⟨-, behind, hsuffix, -⟩
  simp at hsuffix

theorem behindColon_cons :
    BehindColon (c :: cs) w ↔ c = ':' ∧ w ≠ [] ∧ w = cs.takeWhile isWord ∨ BehindColon cs w := by
  unfold BehindColon
  constructor
  · rintro ⟨hne, behind, hsuffix, hw⟩
    obtain heq | hsuffix := List.suffix_cons_iff.mp hsuffix
    · obtain ⟨rfl, rfl⟩ := List.cons.inj heq
      exact .inl ⟨rfl, hne, hw⟩
    · exact .inr ⟨hne, behind, hsuffix, hw⟩
  · rintro (⟨rfl, hne, hw⟩ | ⟨hne, behind, hsuffix, hw⟩)
    · exact ⟨hne, cs, List.suffix_refl _, hw⟩
    · exact ⟨hne, behind, List.suffix_cons_iff.mpr (.inr hsuffix), hw⟩

theorem behindColon_cons_of_ne (hc : c ≠ ':') : BehindColon (c :: cs) w ↔ BehindColon cs w := by
  rw [behindColon_cons]
  simp [hc]

/-! ## Searching for names -/

theorem templateNamesFrom_brace (open_ : Option (List Char)) (cs : List Char) :
    templateNamesFrom open_ ('\x7b' :: cs) = templateNamesFrom (some []) cs := if_pos rfl

theorem templateNamesFrom_none_cons (hc : c ≠ '\x7b') :
    templateNamesFrom none (c :: cs) = templateNamesFrom none cs := if_neg hc

theorem templateNamesFrom_some_cons (hc : c ≠ '\x7b') :
    templateNamesFrom (some name) (c :: cs) =
      if isWord c then templateNamesFrom (some (c :: name)) cs
      else if c = '\x7d' ∧ name ≠ [] then name.reverse :: templateNamesFrom none cs
      else templateNamesFrom none cs := if_neg hc

/-- The search finds the names in braces, and the rest of a name whose brace was open before. -/
theorem mem_templateNamesFrom (cs w : List Char) :
    (w ∈ templateNamesFrom none cs ↔ InBraces cs w) ∧
      ∀ name : List Char, (∀ c ∈ name, isWord c = true) →
        (w ∈ templateNamesFrom (some name) cs ↔ IsName w ∧ Closes name cs w ∨ InBraces cs w) := by
  induction cs with
  | nil => simp [templateNamesFrom, not_closes_nil, inBraces_nil]
  | cons c cs ih =>
    obtain ⟨hnone, hsome⟩ := ih
    by_cases hc : c = '\x7b'
    · -- An opening brace: whatever was open before does not go on.
      subst hc
      have hbrace : w ∈ templateNamesFrom (some []) cs ↔ InBraces ('\x7b' :: cs) w := by
        rw [hsome [] (by simp), inBraces_cons]
        simp only [true_and]
      refine ⟨by rw [templateNamesFrom_brace, hbrace], fun name _ => ?_⟩
      rw [templateNamesFrom_brace, hbrace, closes_cons]
      refine (or_iff_right fun h => ?_).symm
      exact h.2.elim (fun hclosing => absurd hclosing.1 (by decide)) (h.1.not_closes isWord_brace)
    · refine ⟨by rw [templateNamesFrom_none_cons hc, hnone, inBraces_cons_of_ne hc],
        fun name hname => ?_⟩
      rw [templateNamesFrom_some_cons hc, inBraces_cons_of_ne hc, closes_cons]
      split
      · rename_i hword
        have hclosing : c ≠ '\x7d' := by
          rintro rfl
          simp [isWord_closing] at hword
        rw [hsome (c :: name) (List.forall_mem_cons.mpr ⟨hword, hname⟩)]
        simp [hclosing]
      · rename_i hword
        rw [isName_and_closes_iff (by simpa using hword) hname]
        split
        · rename_i hclosing
          rw [List.mem_cons, hnone, and_iff_right hclosing]
        · rename_i hclosing
          rw [hnone]
          simp [hclosing]

/-! ## Writing names in braces -/

/-- A name that is written behind an open brace is closed where its word characters end. -/
theorem closes_braced_true (hw : IsName w) :
    Closes name (braced true cs) w ↔ w = name.reverse ++ cs.takeWhile isWord := by
  induction cs generalizing name with
  | nil =>
    have hnil : braced true [] = ['\x7d'] := rfl
    rw [hnil, closes_cons]
    simp [not_closes_nil]
  | cons c cs ih =>
    rw [braced_true_cons, List.takeWhile_cons]
    split
    · rename_i hword
      have hclosing : c ≠ '\x7d' := by
        rintro rfl
        simp [isWord_closing] at hword
      rw [closes_cons, ih]
      simp [hclosing]
    · rw [closes_cons]
      simp [hw.not_closes isWord_closing]

theorem isName_and_closes_braced_true :
    IsName w ∧ Closes [] (braced true cs) w ↔ w ≠ [] ∧ w = cs.takeWhile isWord := by
  refine ⟨fun ⟨hw, h⟩ => ⟨hw.1, (closes_braced_true hw).mp h⟩, fun ⟨hne, heq⟩ => ?_⟩
  have hw : IsName w := ⟨hne, fun d hd => List.mem_takeWhile_imp (heq ▸ hd)⟩
  exact ⟨hw, (closes_braced_true hw).mpr heq⟩

/-- A name with a brace before it has one behind it after the writing exactly when it had one
before. -/
theorem closes_braced_false (hw : IsName w) :
    Closes name (braced false cs) w ↔ Closes name cs w := by
  induction cs generalizing name with
  | nil => rfl
  | cons c cs ih =>
    rw [braced_false_cons]
    split
    · rename_i hopens
      obtain ⟨rfl, -⟩ := hopens
      rw [closes_cons, closes_cons]
      simp [hw.not_closes isWord_brace, hw.not_closes isWord_colon]
    · rw [closes_cons, closes_cons, ih]

/-- **Names in braces** after the writing are the names that the text had, in braces or behind a
colon. -/
theorem inBraces_braced (inName : Bool) : InBraces (braced inName cs) w ↔ NamesParameter cs w := by
  unfold NamesParameter
  induction cs generalizing inName with
  | nil =>
    cases inName with
    | false => simp [braced, inBraces_nil, behindColon_nil]
    | true => simp [braced, inBraces_cons, inBraces_nil, behindColon_nil]
  | cons c cs ih =>
    have hrest : InBraces (braced false (c :: cs)) w ↔
        BehindColon (c :: cs) w ∨ InBraces (c :: cs) w := by
      rw [braced_false_cons]
      split
      · rename_i hopens
        obtain ⟨rfl, -⟩ := hopens
        rw [inBraces_cons, ih, behindColon_cons, inBraces_cons_of_ne (by decide)]
        simp only [true_and, isName_and_closes_braced_true, or_assoc]
      · rename_i hopens
        -- A colon here has no name behind it.
        have hcolon : ¬ (c = ':' ∧ w ≠ [] ∧ w = cs.takeWhile isWord) := by
          rintro ⟨rfl, hne, rfl⟩
          cases cs with
          | nil => exact hne rfl
          | cons d cs =>
            refine hne (List.takeWhile_cons_of_neg fun hd => hopens ⟨rfl, ?_⟩)
            simpa using hd
        have hname : IsName w ∧ c = '\x7b' ∧ Closes [] (braced false cs) w ↔
            IsName w ∧ c = '\x7b' ∧ Closes [] cs w :=
          and_congr_right fun hw => and_congr_right fun _ => closes_braced_false hw
        rw [inBraces_cons, inBraces_cons, behindColon_cons, ih, hname, or_iff_right hcolon]
        exact or_left_comm
    cases inName with
    | false => exact hrest
    | true =>
      rw [braced_true_cons]
      split
      · rename_i hword
        have hne (d : Char) (hd : isWord d = false) : c ≠ d := by
          rintro rfl
          simp [hword] at hd
        rw [inBraces_cons_of_ne (hne _ isWord_brace), ih,
          behindColon_cons_of_ne (hne _ isWord_colon), inBraces_cons_of_ne (hne _ isWord_brace)]
      · rw [inBraces_cons_of_ne (by decide), hrest]

/-! ## Slashes -/

theorem closes_append_slash (hw : IsName w) :
    Closes name (cs ++ '/' :: ds) w ↔ Closes name cs w := by
  induction cs generalizing name with
  | nil =>
    rw [List.nil_append, closes_cons]
    simp [hw.not_closes isWord_slash, not_closes_nil]
  | cons c cs ih => rw [List.cons_append, closes_cons, closes_cons, ih]

theorem inBraces_append_slash : InBraces (cs ++ '/' :: ds) w ↔ InBraces cs w ∨ InBraces ds w := by
  induction cs with
  | nil =>
    rw [List.nil_append, inBraces_cons_of_ne (by decide)]
    simp [inBraces_nil]
  | cons c cs ih =>
    have hname : IsName w ∧ c = '\x7b' ∧ Closes [] (cs ++ '/' :: ds) w ↔
        IsName w ∧ c = '\x7b' ∧ Closes [] cs w :=
      and_congr_right fun hw => and_congr_right fun _ => closes_append_slash hw
    rw [List.cons_append, inBraces_cons, inBraces_cons, ih, hname, or_assoc]

theorem behindColon_append_slash :
    BehindColon (cs ++ '/' :: ds) w ↔ BehindColon cs w ∨ BehindColon ds w := by
  induction cs with
  | nil =>
    rw [List.nil_append, behindColon_cons_of_ne (by decide)]
    simp [behindColon_nil]
  | cons c cs ih =>
    have htake : (cs ++ '/' :: ds).takeWhile isWord = cs.takeWhile isWord := by
      rw [List.takeWhile_append, List.takeWhile_cons_of_neg (by simp [isWord_slash]),
        List.append_nil, ite_eq_right_iff]
      exact fun h => ((List.takeWhile_prefix isWord).eq_of_length h).symm
    rw [List.cons_append, behindColon_cons, behindColon_cons, ih, htake, or_assoc]

/-- A path names the parameters that the path before a slash names and the path behind it. -/
theorem namesParameter_append_slash :
    NamesParameter (cs ++ '/' :: ds) w ↔ NamesParameter cs w ∨ NamesParameter ds w := by
  unfold NamesParameter
  rw [behindColon_append_slash, inBraces_append_slash, or_or_or_comm]

theorem namesParameter_nil : ¬ NamesParameter [] w := fun h => h.elim behindColon_nil inBraces_nil

theorem namesParameter_join (ps : List (List Char)) :
    NamesParameter (Text.join ['/'] ps) w ↔ ∃ p ∈ ps, NamesParameter p w := by
  induction ps with
  | nil => simp [Text.join, namesParameter_nil]
  | cons p ps ih =>
    cases ps with
    | nil => simp [Text.join]
    | cons q ps =>
      have hjoin : Text.join ['/'] (p :: q :: ps) = p ++ '/' :: Text.join ['/'] (q :: ps) :=
        List.append_assoc p ['/'] _
      rw [hjoin, namesParameter_append_slash, ih]
      simp

/-- A path names the parameters that its segments name. -/
theorem namesParameter_iff_segments :
    NamesParameter cs w ↔ ∃ s ∈ segments cs, NamesParameter s w := by
  have hpieces := namesParameter_join (w := w) (Text.pieces '/' cs)
  rw [Text.join_pieces] at hpieces
  rw [hpieces]
  unfold segments
  refine exists_congr fun s => ?_
  rw [List.mem_filter, and_assoc]
  refine and_congr_right fun _ => (and_iff_right_of_imp fun h => ?_).symm
  cases s with
  | nil => exact absurd h namesParameter_nil
  | cons => rfl

/-- **Names in a joined path** are those that its two parts name, with a slash between them. -/
theorem mem_templateNames_join {mount path name : String} :
    name ∈ templateNames (join mount path) ↔
    NamesParameter (mount.toList ++ '/' :: path.toList) name.toList := by
  have hjoined : (join mount path).toList =
      braced false (ofSegments (segments mount.toList ++ segments path.toList)) := by
    rw [braced_ofSegments, ← joinChars_eq]
    exact String.toList_ofList
  have hname : name ∈ templateNames (join mount path) ↔
      InBraces (join mount path).toList name.toList := by
    rw [← (mem_templateNamesFrom _ _).1, templateNames, List.mem_map]
    constructor
    · rintro ⟨cs, hcs, rfl⟩
      rwa [String.toList_ofList]
    · exact fun h => ⟨_, h, String.ofList_toList⟩
  rw [hname, hjoined, inBraces_braced, namesParameter_iff_segments,
    segments_ofSegments fun s hs =>
    (List.mem_append.mp hs).elim isSegment_of_mem_segments isSegment_of_mem_segments,
    ← segments_append, ← namesParameter_iff_segments]

end ApiDoc.Path
