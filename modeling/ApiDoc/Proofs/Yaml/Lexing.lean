import ApiDoc.Proofs.Yaml.Scalars

/-!
# Tokens of flow collections

What one step of the lexer does inside of flow collections, where white space is nothing but spaces
and line feeds and keys are in double quotes.

**Where a step begins.** `IsAt s depth rest` says that no block is open, that `depth` flow
collections are, that no candidate has to be a key, and that `rest` comes next, behind white space.
Each kind of token leads from one such place to another.

**Runs.** `Lexes ts s s'` says that the lexer comes from `s` to `s'` and adds the tokens `ts`. Each
step takes a character, so the steps that the lexer has are enough for the whole text
(`readAll_of_lexes`).

**Keys.** The token of a key is inserted when its colon is read. For this the candidate must still
be there, on the same line and not more than 1024 characters back (`lexes_key`).
-/

namespace ApiDoc.Yaml

/-- White space of spaces and line feeds. -/
def IsGap (cs : List Char) : Prop := ∀ c ∈ cs, c = ' ' ∨ c = '\n'

/-! ## Cursors -/

namespace Cursor

theorem rest_advance {k : Cursor} {a b : List Char} (h : k.rest = a ++ b) :
    (k.advance a.length).rest = b := by
  induction a generalizing k with
  | nil => exact h
  | cons c a ih =>
    rw [List.length_cons, advance, h]
    exact ih (by unfold past; split <;> rfl)

theorem index_advance {k : Cursor} {a b : List Char} (h : k.rest = a ++ b) :
    (k.advance a.length).index = k.index + a.length := by
  induction a generalizing k with
  | nil => rfl
  | cons c a ih =>
    have hrest : (k.past c (a ++ b)).rest = a ++ b := by unfold past; split <;> rfl
    have hindex : (k.past c (a ++ b)).index = k.index + 1 := by unfold past; split <;> rfl
    rw [List.length_cons, advance, h]
    exact (ih hrest).trans (by rw [hindex]; omega)

theorem line_advance {k : Cursor} {a b : List Char} (h : k.rest = a ++ b)
    (ha : ∀ c ∈ a, isBreak c = false) :
    (k.advance a.length).line = k.line := by
  induction a generalizing k with
  | nil => rfl
  | cons c a ih =>
    obtain ⟨hc, ha⟩ := List.forall_mem_cons.mp ha
    have hrest : (k.past c (a ++ b)).rest = a ++ b := by unfold past; split <;> rfl
    have hline : (k.past c (a ++ b)).line = k.line := by simp [past, hc]
    rw [List.length_cons, advance, h]
    exact (ih hrest ha).trans hline

end Cursor

namespace Lexing

/-! ## Places -/

/-- Nothing of a block is open, no candidate has to be a key, `depth` flow collections are open, and
`rest` comes next. -/
structure Stands (s : Lexing) (depth : Nat) (rest : List Char) : Prop where
  indent : s.indent = -1
  candidates : ∀ p ∈ s.candidates, p.2.required = false
  depth : s.flowDepth = depth
  rest : s.cursor.rest = rest

/-- The same with white space before what comes next. -/
def IsAt (s : Lexing) (depth : Nat) (rest : List Char) : Prop :=
  ∃ gap, IsGap gap ∧ s.Stands depth (gap ++ rest)

theorem Stands.isAt {s : Lexing} {depth : Nat} {rest : List Char} (h : s.Stands depth rest) :
    s.IsAt depth rest :=
  ⟨[], List.forall_mem_nil _, h⟩

/-- White space before what comes next is none of it. -/
theorem IsAt.behind {s : Lexing} {depth : Nat} {gap rest : List Char} (hgap : IsGap gap)
    (h : s.IsAt depth (gap ++ rest)) : s.IsAt depth rest := by
  obtain ⟨front, hfront, h⟩ := h
  exact ⟨front ++ gap, List.forall_mem_append.mpr ⟨hfront, hgap⟩, by rwa [List.append_assoc]⟩

/-! ## White space -/

/-- A character that is no white space, begins no comment and is no mark of byte order. -/
def IsSolid (c : Char) : Prop := isSpace c = false ∧ c ≠ '#' ∧ c ≠ '\uFEFF'

theorem gapLength_gap {gap rest : List Char} (hgap : IsGap gap)
    (hrest : ∀ c ∈ rest.head?, IsSolid c) :
    (gapLength false (gap ++ rest)).1 = gap.length := by
  induction gap with
  | nil =>
    cases rest with
    | nil => rfl
    | cons c cs =>
      obtain ⟨hspace, hcomment, -⟩ := hrest c rfl
      simp only [isSpace, isBlank, Bool.or_eq_false_iff, decide_eq_false_iff_not] at hspace
      obtain ⟨⟨hblank, -⟩, hbreak⟩ := hspace
      simp [gapLength, hbreak, hblank, hcomment]
  | cons c gap ih =>
    obtain ⟨hc, hgap'⟩ := List.forall_mem_cons.mp hgap
    obtain rfl | rfl := hc
    · exact congrArg (· + 1) (ih hgap')
    · exact congrArg (· + 1) (ih hgap')

/-- The lexer skips white space. -/
theorem skipGap_eq {s : Lexing} {gap rest : List Char} (hgap : IsGap gap)
    (hrest : ∀ c ∈ rest.head?, IsSolid c) (h : s.cursor.rest = gap ++ rest) :
    ∃ key, (s.keyAllowed = true → key = true) ∧
      s.skipGap = { s with cursor := s.cursor.advance gap.length, keyAllowed := key } := by
  -- A mark of the byte order would be skipped at the start, but neither part begins with one.
  have hmark : ¬ (s.cursor.index = 0 ∧ s.cursor.peek = some '\uFEFF') := by
    rintro ⟨-, hpeek⟩
    rw [Cursor.peek, h] at hpeek
    cases gap with
    | nil =>
      cases rest with
      | nil => cases hpeek
      | cons c cs => exact (hrest c rfl).2.2 (Option.some.inj hpeek)
    | cons c gap =>
      obtain rfl : c = '\uFEFF' := Option.some.inj hpeek
      exact absurd (hgap _ List.mem_cons_self) (by decide)
  have hlength := gapLength_gap hgap hrest
  unfold skipGap
  rw [if_neg hmark]
  dsimp only
  rw [h, skip, hlength]
  split
  · exact ⟨true, fun _ => rfl, rfl⟩
  · exact ⟨s.keyAllowed, id, rfl⟩

/-! ## One step -/

variable {s s' s'' : Lexing} {depth : Nat} {ts us : List Token} {t : Token} {rest : List Char}
  {P : Lexing → Prop}

theorem dropStale_eq (h : ∀ p ∈ s.candidates, p.2.required = false) :
    s.dropStale = .ok { s with candidates := s.candidates.filter fun (_, c) => !s.isStale c } := by
  refine if_neg fun hany => ?_
  obtain ⟨⟨n, c⟩, hc, hrequired⟩ := List.any_eq_true.mp hany
  exact absurd ((Bool.and_eq_true_iff.mp hrequired).2) (Bool.eq_false_iff.mp (h _ hc))

theorem unwind_eq (h : s.indent = -1) (column : Int) (hcolumn : -1 ≤ column) :
    s.unwind column = s := by
  have hclose (opened : List Int) : closeBlocks column opened s = s := by
    rw [closeBlocks.eq_def, if_neg (by rw [h]; omega)]
  unfold unwind
  rw [hclose, ite_self]

/-- The place behind white space, where candidates that are stale are given up. -/
def behind (n : Nat) (key : Bool) (s : Lexing) : Lexing :=
  let s := { s with cursor := s.cursor.advance n, keyAllowed := key }
  { s with candidates := s.candidates.filter fun (_, c) => !s.isStale c }

theorem stands_behind {gap rest : List Char} (h : s.Stands depth (gap ++ rest)) (key : Bool) :
    (s.behind gap.length key).Stands depth rest where
  indent := h.indent
  candidates p hp := h.candidates p (List.mem_filter.mp hp).1
  depth := h.depth
  rest := Cursor.rest_advance h.rest

/-- A step begins by passing white space and giving up what is stale. -/
theorem dropStale_skipGap {gap : List Char} (hgap : IsGap gap) (hrest : ∀ c ∈ rest.head?, IsSolid c)
    (h : s.Stands depth (gap ++ rest)) :
    ∃ key, (s.keyAllowed = true → key = true) ∧
    s.skipGap.dropStale = .ok (s.behind gap.length key) := by
  obtain ⟨key, hkey, hskip⟩ := skipGap_eq hgap hrest h.rest
  exact ⟨key, hkey, hskip ▸ dropStale_eq h.candidates⟩

/-- A step reads the token that stands behind white space. -/
theorem readToken_eq {gap : List Char} {c : Char} {cs : List Char} (hgap : IsGap gap)
    (hc : IsSolid c) (h : s.Stands depth (gap ++ c :: cs)) :
    ∃ key, (s.keyAllowed = true → key = true) ∧
      s.readToken = (·, false) <$> (s.behind gap.length key).readTokenAt c cs := by
  have hsolid : ∀ d ∈ (c :: cs).head?, IsSolid d := by
    rintro d ⟨⟩
    exact hc
  obtain ⟨key, hkey, hdrop⟩ := dropStale_skipGap hgap hsolid h
  have hr := stands_behind h key
  have hunwind := unwind_eq hr.indent (s.behind gap.length key).cursor.column (by omega)
  refine ⟨key, hkey, ?_⟩
  unfold readToken
  rw [hdrop]
  simp only [bind, Except.bind, hunwind, hr.rest]
  cases (s.behind gap.length key).readTokenAt c cs <;> rfl

/-! ## Runs -/

/-- The lexer comes from one place to another and adds tokens, and takes a character for each
step. -/
structure Lexes (ts : List Token) (s s' : Lexing) : Prop where
  steps : ∃ n, n + s'.cursor.rest.length ≤ s.cursor.rest.length ∧
    ∀ fuel, readAll (fuel + n) s = readAll fuel s'
  tokens : s'.tokens = ts.reverse ++ s.tokens
  count : s'.count = s.count + ts.length

theorem Lexes.trans (h : Lexes ts s s') (h' : Lexes us s' s'') : Lexes (ts ++ us) s s'' where
  steps := by
    obtain ⟨n, hn, hread⟩ := h.steps
    obtain ⟨m, hm, hread'⟩ := h'.steps
    exact ⟨m + n, by omega, fun fuel => by rw [← Nat.add_assoc, hread, hread']⟩
  tokens := by rw [h'.tokens, h.tokens, List.reverse_append, List.append_assoc]
  count := by rw [h'.count, h.count, List.length_append, Nat.add_assoc]

/-- One step is a run. -/
theorem lexes_of_readToken (h : s.readToken = .ok (s', false))
    (hlength : s'.cursor.rest.length < s.cursor.rest.length)
    (htokens : s'.tokens = t :: s.tokens) (hcount : s'.count = s.count + 1) : Lexes [t] s s' where
  steps := ⟨1, by omega, fun fuel => by rw [readAll, h]⟩
  tokens := htokens
  count := hcount

/-- A run of one step, from what the step does behind white space. -/
theorem lexes_step {c : Char} {cs rest : List Char} {depth' : Nat} (hc : IsSolid c)
    (h : s.IsAt depth (c :: cs)) (hrest : rest.length ≤ cs.length)
    (hstep : ∀ r : Lexing, r.Stands depth (c :: cs) → (s.keyAllowed = true → r.keyAllowed = true) →
      ∃ s', r.readTokenAt c cs = .ok s' ∧ s'.Stands depth' rest ∧ s'.tokens = t :: r.tokens ∧
        s'.count = r.count + 1 ∧ P s') :
    ∃ s', Lexes [t] s s' ∧ s'.Stands depth' rest ∧ P s' := by
  obtain ⟨gap, hgap, h⟩ := h
  obtain ⟨key, hkey, hread⟩ := readToken_eq hgap hc h
  obtain ⟨s', hs', hstands, htokens, hcount, hp⟩ := hstep _ (stands_behind h key) hkey
  rw [hs'] at hread
  refine ⟨s', lexes_of_readToken hread ?_ htokens hcount, hstands, hp⟩
  rw [h.rest, hstands.rest, List.length_append, List.length_cons]
  omega

/-! ## Candidates -/

theorem dropCandidate_eq (h : ∀ p ∈ s.candidates, p.2.required = false) :
    ∃ candidates, s.dropCandidate = .ok { s with candidates } ∧ ∀ p ∈ candidates,
      p.2.required = false := by
  unfold dropCandidate
  cases hlookup : s.candidates.lookup s.flowDepth with
  | none => exact ⟨s.candidates, rfl, h⟩
  | some c =>
    obtain ⟨front, back, hcandidates, -⟩ := List.lookup_eq_some_iff.mp hlookup
    have hc : c.required = false := h (s.flowDepth, c) (by rw [hcandidates]; simp)
    dsimp only
    rw [hc, if_neg Bool.false_ne_true]
    exact ⟨_, rfl, fun p hp => h p (List.mem_filter.mp hp).1⟩

theorem required_candidate (h : s.indent = -1) : s.candidate.required = false := by
  have hcolumn : ¬ s.indent = s.cursor.column := by rw [h]; omega
  exact (congrArg (s.inBlock && ·) (decide_eq_false hcolumn)).trans (Bool.and_false _)

theorem addCandidate_eq (h : s.Stands depth rest) :
    ∃ candidates,
      s.addCandidate = .ok { s with candidates } ∧ (∀ p ∈ candidates, p.2.required = false) ∧
      (s.keyAllowed = true → ∃ others, candidates = (depth, s.candidate) :: others) := by
  unfold addCandidate
  by_cases hkey : s.keyAllowed = true
  · obtain ⟨candidates, hdrop, hcandidates⟩ := dropCandidate_eq h.candidates
    rw [if_pos hkey, hdrop]
    exact ⟨_, rfl, List.forall_mem_cons.mpr ⟨required_candidate h.indent, hcandidates⟩,
      fun _ => ⟨candidates, congrArg (fun d => (d, s.candidate) :: candidates) h.depth⟩⟩
  · rw [if_neg hkey]
    exact ⟨s.candidates, rfl, h.candidates, fun h => absurd h hkey⟩

/-! ## Marks -/

theorem startsMark_of_ne {c d : Char} (h : d ≠ c) (cs : List Char) :
    startsMark c (d :: cs) = false := by
  unfold startsMark
  split
  · rename_i heq
    obtain ⟨rfl, -⟩ := List.cons.inj heq
    simp [h]
  · rfl

theorem startsMark_of_second_ne {a b c : Char} (h : b ≠ c) (cs : List Char) :
    startsMark c (a :: b :: cs) = false := by
  cases cs with
  | nil => rfl
  | cons d cs => simp [startsMark, h]

theorem rest_skip {c : Char} {cs : List Char} (h : s.cursor.rest = c :: cs) :
    (s.skip 1).cursor.rest = cs :=
  Cursor.rest_advance (a := [c]) h

/-- A bracket that opens a collection. -/
theorem lexes_open {c : Char} (h : s.IsAt depth (c :: rest))
    (hc : c = '[' ∧ t = .flowSequence ∨ c = '\x7b' ∧ t = .flowMapping) :
    ∃ s', Lexes [t] s s' ∧ s'.Stands (depth + 1) rest ∧ s'.keyAllowed = true := by
  have hsolid : IsSolid c := by
    obtain ⟨rfl, -⟩ | ⟨rfl, -⟩ := hc <;> exact ⟨by decide, by decide, by decide⟩
  refine lexes_step hsolid h (Nat.le_refl _) fun r hr _ => ?_
  have hread : r.readTokenAt c rest = r.startFlow t := by
    obtain ⟨rfl, rfl⟩ | ⟨rfl, rfl⟩ := hc <;> simp [readTokenAt, startsMark_of_ne]
  obtain ⟨candidates, hadd, hcandidates, -⟩ := addCandidate_eq hr
  rw [hread, startFlow, hadd]
  exact ⟨_, rfl, ⟨hr.indent, hcandidates, congrArg (· + 1) hr.depth, rest_skip hr.rest⟩, rfl, rfl,
    rfl⟩

/-- A bracket that closes a collection. -/
theorem lexes_close {c : Char} (h : s.IsAt (depth + 1) (c :: rest))
    (hc : c = ']' ∧ t = .flowSequenceEnd ∨ c = '\x7d' ∧ t = .flowMappingEnd) :
    ∃ s', Lexes [t] s s' ∧ s'.Stands depth rest := by
  have hsolid : IsSolid c := by
    obtain ⟨rfl, -⟩ | ⟨rfl, -⟩ := hc <;> exact ⟨by decide, by decide, by decide⟩
  obtain ⟨s', hs', hstands, -⟩ :=
    lexes_step (t := t) (P := fun _ => True) hsolid h (Nat.le_refl _) fun r hr _ => by
    have hread : r.readTokenAt c rest = r.endFlow t := by
      obtain ⟨rfl, rfl⟩ | ⟨rfl, rfl⟩ := hc <;> simp [readTokenAt, startsMark_of_ne]
    obtain ⟨candidates, hdrop, hcandidates⟩ := dropCandidate_eq hr.candidates
    rw [hread, endFlow, hdrop]
    exact ⟨_, rfl, ⟨hr.indent, hcandidates, congrArg (· - 1) hr.depth, rest_skip hr.rest⟩, rfl, rfl,
      trivial⟩
  exact ⟨s', hs', hstands⟩

theorem lexes_comma (h : s.IsAt depth (',' :: rest)) :
    ∃ s', Lexes [.comma] s s' ∧ s'.Stands depth rest ∧ s'.keyAllowed = true := by
  refine lexes_step ⟨by decide, by decide, by decide⟩ h (Nat.le_refl _) fun r hr _ => ?_
  have hread : r.readTokenAt ',' rest = r.addComma := by simp [readTokenAt, startsMark_of_ne]
  obtain ⟨candidates, hdrop, hcandidates⟩ := dropCandidate_eq hr.candidates
  rw [hread, addComma, hdrop]
  exact ⟨_, rfl, ⟨hr.indent, hcandidates, hr.depth, rest_skip hr.rest⟩, rfl, rfl, rfl⟩

/-! ## Scalars -/

/-- A scalar that the lexer has read up to a cursor. -/
theorem addSimple_eq {k : Cursor} {rest' : List Char} (h : s.Stands depth rest)
    (hk : k.rest = rest') :
    ∃ s', s.addSimple t k = .ok s' ∧ s'.Stands depth rest' ∧ s'.tokens = t :: s.tokens ∧
      s'.count = s.count + 1 ∧ s'.cursor = k ∧
      (s.keyAllowed = true → ∃ others, s'.candidates = (depth, s.candidate) :: others) := by
  obtain ⟨candidates, hadd, hcandidates, hcandidate⟩ := addCandidate_eq h
  unfold addSimple
  rw [hadd]
  exact ⟨_, rfl, ⟨h.indent, hcandidates, h.depth, hk⟩, rfl, rfl, rfl, hcandidate⟩

open Json (Letter Key stringChars letterChars stringValue)

/-- A character that a text may hold and that ends no line. -/
def IsInLine (c : Char) : Prop := isAllowed c = true ∧ isBreak c = false

theorem isInLine_of_le {c : Char} (h : 0x20 ≤ c.toNat) (h' : c.toNat ≤ 0x7E) : IsInLine c := by
  refine ⟨?_, Bool.eq_false_iff.mpr fun hbreak => ?_⟩
  · simp [isAllowed, h, h']
  · simp only [isBreak, Bool.or_eq_true, decide_eq_true_eq] at hbreak
    obtain ((rfl | rfl) | rfl) | rfl := hbreak <;> revert h h' <;> decide

theorem isInLine_of_hexValue? {c : Char} {n : Nat} (h : Text.hexValue? c = some n) :
    IsInLine c := by
  have hle {a b : Char} (hab : a ≤ b) : a.toNat ≤ b.toNat := hab
  unfold Text.hexValue? at h
  split at h
  · rename_i hdigit
    exact isInLine_of_le (of_isDigit (p := fun c => 0x20 ≤ c.toNat) (by decide) hdigit)
      (of_isDigit (p := fun c => c.toNat ≤ 0x7E) (by decide) hdigit)
  · split at h
    · rename_i hletter
      exact isInLine_of_le (Nat.le_trans (by decide) (hle hletter.1))
        (Nat.le_trans (hle hletter.2) (by decide))
    · split at h
      · rename_i hletter
        exact isInLine_of_le (Nat.le_trans (by decide) (hle hletter.1))
          (Nat.le_trans (hle hletter.2) (by decide))
      · cases h

theorem isInLine_of_escape? {letter c : Char} (h : Json.escape? letter = some c) :
    IsInLine letter := by
  have hletter : letter ∈ ['"', '\\', '/', 'n', 't', 'r', 'b', 'f'] := by
    unfold Json.escape? at h
    repeat' split at h
    · rename_i hmarks
      obtain rfl | rfl | rfl := hmarks <;> decide
    all_goals first | cases h; done | subst_vars; decide
  have hbounds : ∀ c ∈ ['"', '\\', '/', 'n', 't', 'r', 'b', 'f'], 0x20 ≤ c.toNat ∧ c.toNat ≤ 0x7E :=
    List.all_iff_forall_prop.mp (by decide)
  exact isInLine_of_le (hbounds _ hletter).1 (hbounds _ hletter).2

theorem isInLine_of_mem_letter {l : Letter} (hl : l.IsCommon) : ∀ c ∈ l.chars, IsInLine c := by
  have hslash : IsInLine '\\' := ⟨by decide, by decide⟩
  cases l with
  | raw c h => exact List.forall_mem_singleton.mpr hl
  | short letter c h =>
    exact List.forall_mem_cons.mpr ⟨hslash, List.forall_mem_singleton.mpr (isInLine_of_escape? h)⟩
  | code a b c d n h hchar =>
    obtain ⟨x, y, z, w, ha, hb, hc, hd, -⟩ := Json.exists_hexValue? h
    have hu : IsInLine 'u' := ⟨by decide, by decide⟩
    simp only [Letter.chars, List.forall_mem_cons, hslash, hu, isInLine_of_hexValue? ha,
      isInLine_of_hexValue? hb, isInLine_of_hexValue? hc, isInLine_of_hexValue? hd, true_and]
    exact List.forall_mem_nil _

theorem isInLine_of_mem_quoted {ls : List Letter} (hls : ∀ l ∈ ls, l.IsCommon) :
    ∀ c ∈ stringChars ls, IsInLine c := by
  have hquote : IsInLine '"' := ⟨by decide, by decide⟩
  refine List.forall_mem_cons.mpr ⟨hquote, List.forall_mem_append.mpr
    ⟨fun c hc => ?_, List.forall_mem_singleton.mpr hquote⟩⟩
  obtain ⟨l, hl, hc⟩ := List.mem_flatMap.mp hc
  exact isInLine_of_mem_letter (hls l hl) c hc

/-- The place behind a string that may be a key, `n` characters behind its opening quote. -/
structure HasKey (depth n : Nat) (s : Lexing) : Prop where
  candidate : ∃ c others, s.candidates = (depth, c) :: others ∧ c.position + 1 = s.count ∧
    c.index + n = s.cursor.index ∧ c.line = s.cursor.line

/-- A string in double quotes. -/
theorem lexes_quoted {ls : List Letter} (hls : ∀ l ∈ ls, l.IsCommon)
    (h : s.IsAt depth (stringChars ls ++ rest)) :
    ∃ s', Lexes [.scalar false (stringValue ls)] s s' ∧ s'.Stands depth rest ∧
      (s.keyAllowed = true → HasKey depth (stringChars ls).length s') := by
  have hquoted : stringChars ls ++ rest = '"' :: (letterChars ls ++ '"' :: rest) := by
    rw [stringChars, List.cons_append, List.append_assoc]
    rfl
  rw [hquoted] at h
  refine lexes_step ⟨by decide, by decide, by decide⟩ h (by simp; omega) fun r hr hkey => ?_
  have hread : r.readTokenAt '"' (letterChars ls ++ '"' :: rest) = r.addQuoted true := by
    simp [readTokenAt, startsMark_of_ne]
  have hrest : r.cursor.rest = stringChars ls ++ rest := hr.rest.trans hquoted.symm
  have hlength : (letterChars ls).length + 1 + 1 = (stringChars ls).length := by simp [stringChars]
  have hadd : r.addQuoted true =
      r.addSimple (.scalar false (stringValue ls)) (r.cursor.advance (stringChars ls).length) := by
    have hscalar := Json.doubleQuoted_letters hls (show Json.IsLineGap .none from rfl) rest
    unfold addQuoted
    rw [hr.rest]
    simp only [List.drop_succ_cons, List.drop_zero, if_true, hscalar]
    have hcodes : ofCodes (Scalar.codes (Gap.none.value ++ ls.map Letter.value)) =
        .scalar false (stringValue ls) :=
      Json.ofCodes_codes _
    rw [← hlength, ← hcodes]
    rfl
  obtain ⟨s', hs', hstands, htokens, hcount, hcursor, hcandidate⟩ :=
    addSimple_eq (t := .scalar false (stringValue ls)) hr (Cursor.rest_advance hrest)
  rw [hread, hadd]
  refine ⟨s', hs', hstands, htokens, hcount, fun hs => ?_⟩
  -- The text may be a key: its candidate is on the same line, as no letter breaks it.
  obtain ⟨others, hothers⟩ := hcandidate (hkey hs)
  refine ⟨r.candidate, others, hothers, hcount.symm, ?_, ?_⟩
  · rw [hcursor, Cursor.index_advance hrest]
    rfl
  · rw [hcursor, Cursor.line_advance hrest fun c hc => (isInLine_of_mem_quoted hls c hc).2]
    rfl

theorem addValue_eq {c : Candidate} (h : s.Stands depth (':' :: rest)) (hblock : s.inBlock = false)
    (hlookup : s.candidates.lookup s.flowDepth = some c) :
    ∃ s', s.addValue = .ok s' ∧ s'.Stands depth rest ∧ s'.count = s.count + 2 ∧
      s'.tokens = .value ::
        (s.tokens.take (s.count - c.position) ++ .key :: s.tokens.drop (s.count - c.position)) := by
  have hkeyed (r : Lexing) (hr : r.inBlock = false) (column : Nat) (deeper : Lexing) :
      (if r.inBlock && r.isDeeper column then deeper else r) = r := by
    rw [hr, Bool.false_and, if_neg Bool.false_ne_true]
  unfold addValue
  rw [hlookup]
  simp only [hkeyed
    (insert c.position .key { s with candidates := s.candidates.filter (·.1 ≠ s.flowDepth) })
    hblock]
  exact ⟨_, rfl,
    ⟨h.indent, fun p hp => h.candidates p (List.mem_filter.mp hp).1, h.depth, rest_skip h.rest⟩,
    rfl, rfl⟩

/-- A string can still become a key behind blanks on its own line, when it is near. -/
theorem HasKey.lookup_behind {n : Nat} {gap : List Char} {cs : List Char}
    (h : HasKey (depth + 1) n s) (hrest : s.cursor.rest = gap ++ cs) (hgap : ∀ c ∈ gap, c = ' ')
    (hnear : n + gap.length ≤ 1024) (key : Bool)
    (hdepth : (s.behind gap.length key).flowDepth = depth + 1) :
    ∃ c, (s.behind gap.length key).candidates.lookup (s.behind gap.length key).flowDepth = some c ∧
      c.position + 1 = s.count := by
  obtain ⟨c, others, hcandidates, hposition, hindex, hline⟩ := h.candidate
  -- The candidate is still on this line and at most 1024 characters back.
  have hfresh : (s.behind gap.length key).isStale c = false := by
    have hindex' : (s.behind gap.length key).cursor.index = s.cursor.index + gap.length :=
      Cursor.index_advance hrest
    have hline' : (s.behind gap.length key).cursor.line = s.cursor.line :=
      Cursor.line_advance hrest fun d hd => hgap d hd ▸ by decide
    rw [isStale, hindex', hline', hline, ← hindex]
    simp
    omega
  have hfilter : (s.behind gap.length key).candidates =
      (depth + 1, c) :: others.filter fun (_, c) => !(s.behind gap.length key).isStale c := by
    refine Eq.trans ?_ (List.filter_cons_of_pos (congrArg (!·) hfresh))
    exact congrArg _ hcandidates
  refine ⟨c, ?_, hposition⟩
  rw [hfilter, hdepth, List.lookup_cons_self]

/-- A colon makes a key of the string before it, when it stands on the same line and near. -/
theorem lexes_key {name : String} {n : Nat} {gap : List Char}
    (hlex : Lexes [.scalar false name] s s') (h : s'.Stands (depth + 1) (gap ++ ':' :: rest))
    (hkey : HasKey (depth + 1) n s') (hgap : ∀ c ∈ gap, c = ' ') (hnear : n + gap.length ≤ 1024) :
    ∃ s'', Lexes [.key, .scalar false name, .value] s s'' ∧ s''.Stands (depth + 1) rest := by
  have hgap' : IsGap gap := fun d hd => .inl (hgap d hd)
  obtain ⟨key, -, hread⟩ := readToken_eq hgap' ⟨by decide, by decide, by decide⟩ h
  have hr := stands_behind h key
  obtain ⟨c, hlookup, hposition⟩ := hkey.lookup_behind h.rest hgap hnear key hr.depth
  have hblock : (s'.behind gap.length key).inBlock = false :=
    decide_eq_false (by rw [hr.depth]; omega)
  have hvalue :
      (s'.behind gap.length key).readTokenAt ':' rest = (s'.behind gap.length key).addValue := by
    simp [readTokenAt, startsMark_of_ne, hblock]
  obtain ⟨s'', hadd, hstands, hcount, htokens⟩ := addValue_eq hr hblock hlookup
  -- The string is the last token, so the mark of a key goes right in front of it.
  have hback : s'.count - c.position = 1 := by omega
  have hread' : s'.readToken = .ok (s'', false) := by
    rw [hread, hvalue, hadd]
    rfl
  have htokens' : s''.tokens = [.value, .scalar false name, .key] ++ s.tokens := by
    have htokens'' : s''.tokens = .value :: (s'.tokens.take (s'.count - c.position) ++
      .key :: s'.tokens.drop (s'.count - c.position)) := htokens
    rw [htokens'', hback, hlex.tokens]
    rfl
  have hcount' : s''.count = s.count + 3 := by
    have hcount'' : s''.count = s'.count + 2 := hcount
    rw [hcount'', hlex.count]
    rfl
  obtain ⟨m, hm, hsteps⟩ := hlex.steps
  refine ⟨s'', ⟨⟨1 + m, ?_, fun fuel => ?_⟩, htokens', hcount'⟩, hstands⟩
  · rw [h.rest, List.length_append, List.length_cons] at hm
    rw [hstands.rest]
    omega
  · rw [← Nat.add_assoc, hsteps, readAll, hread']

/-! ## Plain scalars -/

/-- The characters of numbers and of the words for truth values and for nothing. -/
def wordChars : List Char := numeralChars ++ ['n', 'u', 'l', 't', 'r', 'f', 'a', 's']

/-- A word that is a plain scalar: it begins with a letter, a digit, or a minus sign before a
digit. -/
structure IsWord (word : List Char) : Prop where
  chars : ∀ c ∈ word, c ∈ wordChars
  start : ∃ c cs, word = c :: cs ∧
    (c ∈ ['n', 't', 'f'] ++ digitChars ∨ c = '-' ∧ ∃ d ds, cs = d :: ds ∧ d ∈ digitChars)

/-- A character that ends a part of a flow collection. -/
def IsCloser (c : Char) : Prop := c = ',' ∨ c = ']' ∨ c = '\x7d'

theorem endsPlain_closer {c : Char} (hc : IsCloser c) (cs : List Char) :
    Scalar.endsPlain true c cs = true := by
  obtain rfl | rfl | rfl := hc <;> simp [Scalar.endsPlain, isFlowIndicator]

/-- The white space behind a plain scalar belongs to it. -/
theorem plainFrom_gap {gap : List Char} (hgap : IsGap gap) {c : Char} (hc : IsCloser c)
    (cs : List Char) (indent column : Nat) (g : Gap) :
    (Scalar.plainFrom true indent column g (gap ++ c :: cs)).text = [] ∧
      (Scalar.plainFrom true indent column g (gap ++ c :: cs)).length = gap.length := by
  induction gap generalizing column g with
  | nil =>
    have hspace : c ≠ ' ' ∧ isBreak c = false := by
      obtain rfl | rfl | rfl := hc <;> decide
    rw [List.nil_append, Scalar.plainFrom, if_neg hspace.1, hspace.2, if_neg Bool.false_ne_true,
      endsPlain_closer hc, Bool.true_or, if_pos rfl]
    exact ⟨rfl, rfl⟩
  | cons a gap ih =>
    obtain ⟨ha, hgap'⟩ := List.forall_mem_cons.mp hgap
    rw [List.cons_append, Scalar.plainFrom]
    obtain rfl | rfl := ha
    · obtain ⟨htext, hlength⟩ := ih hgap' (column + 1) (g.addBlank ' ')
      rw [if_pos rfl]
      exact ⟨htext, congrArg (· + 1) hlength⟩
    · -- Behind a break a mark of the document may stand, but here the gap goes on or ends.
      have hmark : startsDocumentMark (gap ++ c :: cs) = false := by
        have hhead : ∃ d ds, gap ++ c :: cs = d :: ds ∧ d ≠ '-' ∧ d ≠ '.' := by
          cases gap with
          | nil => exact ⟨c, cs, rfl, by obtain rfl | rfl | rfl := hc <;> decide⟩
          | cons d gap =>
            refine ⟨d, _, rfl, ?_⟩
            obtain rfl | rfl := hgap' d List.mem_cons_self <;> decide
        obtain ⟨d, ds, heq, hminus, hpoint⟩ := hhead
        rw [heq, startsDocumentMark, startsMark_of_ne hminus, startsMark_of_ne hpoint,
          Bool.or_false]
      obtain ⟨htext, hlength⟩ := ih hgap' 0 (g.addBreak '\n')
      rw [if_neg (by decide), if_pos (by decide), hmark, if_neg Bool.false_ne_true]
      exact ⟨htext, congrArg (· + 1) hlength⟩

theorem plainFrom_word {word : List Char} (hword : ∀ c ∈ word, c ∈ wordChars) {gap : List Char}
    (hgap : IsGap gap) {c : Char} (hc : IsCloser c) (cs : List Char) (indent column : Nat) :
    (Scalar.plainFrom true indent column .none (word ++ (gap ++ c :: cs))).text = word ∧
      (Scalar.plainFrom true indent column .none (word ++ (gap ++ c :: cs))).length =
        word.length + gap.length := by
  have hplain :
      ∀ c ∈ wordChars, c ≠ ' ' ∧ isBreak c = false ∧ isSpace c = false ∧ c ≠ ':' ∧ c ≠ '?' ∧
      isFlowIndicator c = false := List.all_iff_forall_prop.mp (by decide)
  -- The word is read character by character; the gap behind it is not part of the text.
  induction word generalizing column with
  | nil =>
    obtain ⟨htext, hlength⟩ := plainFrom_gap hgap hc cs indent column .none
    exact ⟨htext, hlength.trans (Nat.zero_add _).symm⟩
  | cons a word ih =>
    obtain ⟨ha, hword'⟩ := List.forall_mem_cons.mp hword
    obtain ⟨hspace, hbreak, hspace', hcolon, hquestion, hflow⟩ := hplain a ha
    have hends : Scalar.endsPlain true a (word ++ (gap ++ c :: cs)) = false := by
      simp [Scalar.endsPlain, hspace', hcolon, hquestion, hflow]
    obtain ⟨htext, hlength⟩ := ih hword' (column + 1)
    rw [List.cons_append, Scalar.plainFrom, if_neg hspace, hbreak, if_neg Bool.false_ne_true, hends]
    simp only [Gap.isNone, Bool.not_true, Bool.false_and, Bool.or_self, Bool.false_eq_true,
      if_false, Scalar.Plain.behind, htext, hlength, List.length_cons]
    exact ⟨rfl, by omega⟩

theorem readTokenAt_word {word : List Char} (hword : IsWord word) {c : Char} {cs rest : List Char}
    (heq : word ++ rest = c :: cs) : IsSolid c ∧ s.readTokenAt c cs = s.addPlain := by
  -- Each of these characters fails every test that comes before a plain scalar.
  have hletters :
      ∀ c ∈ ['n', 't', 'f'] ++ digitChars, IsSolid c ∧ c ≠ '%' ∧ c ≠ '-' ∧ c ≠ '.' ∧ c ≠ '[' ∧
      c ≠ '\x7b' ∧ c ≠ ']' ∧ c ≠ '\x7d' ∧ c ≠ ',' ∧ c ≠ '?' ∧ c ≠ ':' ∧ c ≠ '*' ∧ c ≠ '&' ∧
      c ≠ '!' ∧ c ≠ '|' ∧ c ≠ '>' ∧ c ≠ '\'' ∧ c ≠ '"' ∧ isSpace c = false ∧
      isIndicator c = false := by
    unfold IsSolid
    exact List.all_iff_forall_prop.mp (by decide)
  obtain ⟨a, as, rfl, ha⟩ := hword.start
  obtain ⟨rfl, rfl⟩ := List.cons.inj heq
  obtain ha | ⟨rfl, d, ds, rfl, hd⟩ := ha
  · obtain ⟨hsolid, h⟩ := hletters a ha
    refine ⟨hsolid, ?_⟩
    unfold readTokenAt
    simp [startsMark_of_ne, Scalar.startsPlain, h]
  · have hdigit : ∀ d ∈ digitChars, d ≠ '-' ∧ isSpace d = false :=
      List.all_iff_forall_prop.mp (by decide)
    refine ⟨⟨by decide, by decide, by decide⟩, ?_⟩
    have hmark : startsMark '-' ('-' :: d :: (ds ++ rest)) = false :=
      startsMark_of_second_ne (hdigit d hd).1 _
    have happart : endsWord (some d) = false := (hdigit d hd).2
    unfold readTokenAt
    simp [startsMark_of_ne, Scalar.startsPlain, hmark, happart]

/-- A word inside of a flow collection is a plain scalar. -/
theorem lexes_word {word : List Char} (hword : IsWord word) {gap : List Char} (hgap : IsGap gap)
    {c : Char} (hc : IsCloser c) {cs : List Char}
    (h : s.IsAt (depth + 1) (word ++ (gap ++ c :: cs))) :
    ∃ s', Lexes [.scalar true (.ofList word)] s s' ∧ s'.Stands (depth + 1) (c :: cs) := by
  obtain ⟨a, as, hcons⟩ : ∃ a as, word ++ (gap ++ c :: cs) = a :: as := by
    obtain ⟨a, as, hword, -⟩ := hword.start
    exact ⟨a, _, by rw [hword]; rfl⟩
  obtain ⟨hsolid, -⟩ := readTokenAt_word (s := s) hword hcons
  have hrest : ∀ {r : Lexing}, r.Stands (depth + 1) (a :: as) →
      (r.cursor.advance (word ++ gap).length).rest = c :: cs := fun hr =>
    Cursor.rest_advance (by rw [hr.rest, ← hcons, List.append_assoc])
  have hlength : (c :: cs).length ≤ as.length := by
    obtain ⟨b, bs, hword, -⟩ := hword.start
    have := congrArg List.length hcons
    simp only [hword, List.length_append, List.length_cons] at this ⊢
    omega
  rw [hcons] at h
  obtain ⟨s', hs', hstands, -⟩ := lexes_step (t := .scalar true (.ofList word)) (P := fun _ => True)
    hsolid h hlength fun r hr _ => by
    -- Inside of brackets the scanner is not in a block, so the closer ends the scalar.
    have hblock : r.inBlock = false := decide_eq_false (by rw [hr.depth]; omega)
    obtain ⟨htext, hcount⟩ :=
      plainFrom_word hword.chars hgap hc cs (r.indent + 1).toNat r.cursor.column
    obtain ⟨r', hadd, hstands, htokens, hcount', -⟩ :=
      addSimple_eq (t := .scalar true (.ofList word)) hr (hrest hr)
    rw [(readTokenAt_word hword hcons).2, addPlain, hblock, hr.rest, ← hcons]
    simp only [Bool.not_false, htext, hcount, ← List.length_append, hadd]
    exact ⟨_, rfl, ⟨hstands.indent, hstands.candidates, hstands.depth, hstands.rest⟩, htokens,
      hcount', trivial⟩
  exact ⟨s', hs', hstands⟩

/-! ## The end of the text -/

/-- Behind everything, the lexer adds the end of the stream. -/
theorem readToken_end (h : s.IsAt depth []) :
    ∃ s', s.readToken = .ok (s', true) ∧ s'.tokens = .streamEnd :: s.tokens := by
  obtain ⟨gap, hgap, h⟩ := h
  obtain ⟨key, -, hdrop⟩ := dropStale_skipGap hgap (by simp) h
  have hr := stands_behind h key
  have hunwind := unwind_eq hr.indent (s.behind gap.length key).cursor.column (by omega)
  obtain ⟨candidates, hcandidates, -⟩ := dropCandidate_eq hr.candidates
  have hleave : (s.behind gap.length key).leaveBlocks =
      .ok { s.behind gap.length key with candidates, keyAllowed := false } := by
    unfold leaveBlocks
    rw [unwind_eq hr.indent _ (Int.le_refl _), hcandidates]
    rfl
  unfold readToken
  rw [hdrop]
  simp only [bind, Except.bind, hunwind, hr.rest, hleave]
  exact ⟨_, rfl, rfl⟩

/-- A run to the end of a text gives its tokens. -/
theorem readAll_of_lexes (hlex : Lexes ts s s') (h : s'.IsAt depth []) (htokens : s.tokens = []) :
    readAll (s.cursor.rest.length + 1) s = ⟨ts ++ [.streamEnd], none⟩ := by
  obtain ⟨n, hn, hsteps⟩ := hlex.steps
  obtain ⟨s'', hread, hend⟩ := readToken_end h
  obtain ⟨fuel, hfuel⟩ : ∃ fuel, s.cursor.rest.length + 1 = fuel + 1 + n :=
    ⟨s.cursor.rest.length - n, by omega⟩
  rw [hfuel, hsteps, readAll, hread]
  dsimp only
  rw [hend, hlex.tokens, htokens]
  simp

end Lexing

end ApiDoc.Yaml
