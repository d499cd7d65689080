import ApiDoc.Proofs.Yaml.Scalars

/-!
# Line ends of JSON texts

A file reader makes every line end a line feed. In a JSON text that changes white space and nothing
else, since no string has a carriage return for itself.

Main statement: `Source.unifyLines_chars`.
-/

namespace ApiDoc

namespace Text

theorem unifyLines_cons {c : Char} (hc : c ≠ '\r') (cs : List Char) :
    unifyLines (c :: cs) = c :: unifyLines cs := by
  simp [unifyLines, hc]

theorem unifyLines_append {a : List Char} (ha : ∀ c ∈ a, c ≠ '\r') (b : List Char) :
    unifyLines (a ++ b) = a ++ unifyLines b := by
  induction a with
  | nil => rfl
  | cons c a ih =>
    obtain ⟨hc, ha⟩ := List.forall_mem_cons.mp ha
    rw [List.cons_append, unifyLines_cons hc, ih ha, List.cons_append]

/-- Line ends do not reach over a character that is no line feed. -/
theorem unifyLines_append_cons (a : List Char) {c : Char} (hc : c ≠ '\n') (b : List Char) :
    unifyLines (a ++ c :: b) = unifyLines a ++ unifyLines (c :: b) := by
  induction a using unifyLines.induct with
  | case1 cs ih => simpa [unifyLines] using ih
  | case2 d cs hd ih =>
    have hjoined : ∀ cs', d = '\r' → cs ++ c :: b = '\n' :: cs' → False := by
      rintro cs' rfl heq
      cases cs with
      | nil => exact hc (List.cons.inj heq).1
      | cons e cs => exact hd cs rfl (by rw [(List.cons.inj heq).1])
    rw [List.cons_append, unifyLines, unifyLines, ih, List.cons_append]
    · exact hd
    · exact hjoined
  | case3 => rfl

/-- The characters after unifying: those of the text without carriage returns, and line feeds. -/
theorem mem_unifyLines {cs : List Char} : ∀ c ∈ unifyLines cs, c = '\n' ∨ c ∈ cs ∧ c ≠ '\r' := by
  induction cs using unifyLines.induct with
  | case1 cs ih =>
    refine List.forall_mem_cons.mpr ⟨.inl rfl, fun c hc => (ih c hc).imp_right fun h => ?_⟩
    exact ⟨List.mem_cons_of_mem _ (List.mem_cons_of_mem _ h.1), h.2⟩
  | case2 d cs hd ih =>
    rw [unifyLines]
    · refine List.forall_mem_cons.mpr ⟨?_, fun c hc => (ih c hc).imp_right fun h =>
        ⟨List.mem_cons_of_mem _ h.1, h.2⟩⟩
      by_cases hreturn : d = '\r'
      · exact .inl (if_pos hreturn)
      · rw [if_neg hreturn]
        exact .inr ⟨List.mem_cons_self, hreturn⟩
    · exact hd
  | case3 => exact List.forall_mem_nil _

end Text

namespace Json

variable {white : Space → List Char} {rest : List Char}

/-! ## Parts without line ends -/

theorem forall_mem_unified {s : Space} (h : s.IsCommon) : ∀ c ∈ s.unified, c = ' ' ∨ c = '\n' := by
  intro c hc
  obtain hfeed | ⟨hc, hreturn⟩ := Text.mem_unifyLines c hc
  · exact .inr hfeed
  · obtain ⟨b, hb, rfl⟩ := List.mem_map.mp hc
    cases b with
    | space => exact .inl rfl
    | tab => exact absurd hb h
    | lineFeed => exact .inr rfl
    | carriageReturn => exact absurd rfl hreturn

theorem forall_mem_chars_of_spaces {s : Space} (h : ∀ b ∈ s, b = .space) :
    ∀ c ∈ s.chars, c = ' ' := by
  intro c hc
  obtain ⟨b, hb, rfl⟩ := List.mem_map.mp hc
  rw [h b hb]
  rfl

theorem unified_of_spaces {s : Space} (h : ∀ b ∈ s, b = .space) : s.unified = s.chars := by
  have hne : ∀ c ∈ s.chars, c ≠ '\r' := fun c hc => forall_mem_chars_of_spaces h c hc ▸ by decide
  have happend := Text.unifyLines_append hne []
  rwa [List.append_nil, Text.unifyLines, List.append_nil] at happend

theorem ne_return_of_mem_letter (l : Letter) : ∀ c ∈ l.chars, c ≠ '\r' := by
  have hslash : '\\' ≠ '\r' := by decide
  cases l with
  | raw c h =>
    refine List.forall_mem_singleton.mpr ?_
    rintro rfl
    cases h
  | short letter c h =>
    refine List.forall_mem_cons.mpr ⟨hslash, List.forall_mem_singleton.mpr ?_⟩
    rintro rfl
    cases h
  | code a b c d n h hchar =>
    have hhex {c : Char} {n : Nat} (h : Text.hexValue? c = some n) : c ≠ '\r' := by
      rintro rfl
      cases h
    obtain ⟨x, y, z, w, ha, hb, hc, hd, -⟩ := exists_hexValue? h
    simp only [Letter.chars, List.forall_mem_cons, hhex ha, hhex hb, hhex hc, hhex hd, ne_eq,
      not_false_eq_true, true_and]
    exact ⟨hslash, by decide, List.forall_mem_nil _⟩

theorem ne_return_of_mem_quoted (ls : List Letter) : ∀ c ∈ stringChars ls, c ≠ '\r' := by
  refine List.forall_mem_cons.mpr ⟨by decide, List.forall_mem_append.mpr ⟨fun c hc => ?_,
    List.forall_mem_singleton.mpr (by decide)⟩⟩
  obtain ⟨l, -, hc⟩ := List.mem_flatMap.mp hc
  exact ne_return_of_mem_letter l c hc

theorem ne_return_of_mem_scalar (x : Scalar) : ∀ c ∈ x.chars, c ≠ '\r' := by
  cases x with
  | null => exact List.all_iff_forall_prop.mp (by decide)
  | bool b => cases b <;> exact List.all_iff_forall_prop.mp (by decide)
  | number n => exact n.forall_mem_chars (p := fun c => c ≠ '\r') (by decide)
  | string ls => exact ne_return_of_mem_quoted ls

/-- The characters that values begin with. -/
def startChars : List Char := ['\x7b', '[', '"', 'n', 't', 'f', '-'] ++ digitChars

/-- A value begins with one of these characters. -/
theorem Tree.exists_startChar (white : Space → List Char) (t : Tree) :
    ∃ c cs, t.written white = c :: cs ∧ c ∈ startChars := by
  cases t with
  | scalar x =>
    cases x with
    | null => exact ⟨'n', _, rfl, by decide⟩
    | bool b => cases b <;> exact ⟨_, _, rfl, by decide⟩
    | number n =>
      obtain ⟨c, cs, hchars, hc⟩ := n.exists_chars
      have hdigits : ∀ c ∈ '-' :: digitChars, c ∈ startChars :=
        List.all_iff_forall_prop.mp (by decide)
      exact ⟨c, cs, hchars, hdigits c hc⟩
    | string ls => exact ⟨'"', _, rfl, by decide⟩
  | emptyArray | array | emptyObject | object => exact ⟨_, _, rfl, by decide⟩

/-- A value begins with a character that is no line feed. -/
theorem Tree.exists_written (white : Space → List Char) (t : Tree) :
    ∃ c cs, t.written white = c :: cs ∧ c ≠ '\n' := by
  obtain ⟨c, cs, hwritten, hc⟩ := t.exists_startChar white
  have hstart : ∀ c ∈ startChars, c ≠ '\n' := List.all_iff_forall_prop.mp (by decide)
  exact ⟨c, cs, hwritten, hstart c hc⟩

/-! ## Trees -/

/-- White space before a value is unified on its own. -/
theorem unifyLines_before (space : Space) {a : List Char} (ha : ∃ c cs, a = c :: cs ∧ c ≠ '\n')
    (rest : List Char) :
    Text.unifyLines (space.chars ++ (a ++ rest)) =
      space.unified ++ Text.unifyLines (a ++ rest) := by
  obtain ⟨c, cs, rfl, hc⟩ := ha
  exact Text.unifyLines_append_cons _ hc _

theorem Key.unifyLines_written (k : Key) (rest : List Char) :
    Text.unifyLines (k.written Space.chars ++ rest) =
      k.written Space.unified ++ Text.unifyLines rest := by
  have hquoted := Text.unifyLines_append (ne_return_of_mem_quoted k.letters)
  have hcolon (rest : List Char) : Text.unifyLines (k.after.chars ++ ':' :: rest) =
      k.after.unified ++ ':' :: Text.unifyLines rest := by
    rw [Text.unifyLines_append_cons _ (by decide), Text.unifyLines_cons (by decide)]
    rfl
  simp only [Key.written, List.append_assoc, List.singleton_append]
  rw [unifyLines_before k.before (a := stringChars k.letters) ⟨'"', _, rfl, by decide⟩, hquoted,
    hcolon]

mutual

theorem Tree.unifyLines_written (t : Tree) (rest : List Char) :
    Text.unifyLines (t.written Space.chars ++ rest) =
      t.written Space.unified ++ Text.unifyLines rest := by
  cases t with
  | scalar x => exact Text.unifyLines_append (ne_return_of_mem_scalar x) rest
  | emptyArray space | emptyObject space =>
    simp only [Tree.written, List.cons_append, List.append_assoc, List.nil_append]
    rw [Text.unifyLines_cons (by decide), Text.unifyLines_append_cons _ (by decide),
      Text.unifyLines_cons (by decide)]
    rfl
  | array items =>
    have hitems := items.unifyLines_written (c := ']') (by decide) rest
    simp only [Tree.written, List.cons_append, List.append_assoc, List.nil_append]
    rw [Text.unifyLines_cons (by decide), hitems, Text.unifyLines_cons (by decide)]
  | object members =>
    have hmembers := members.unifyLines_written (c := '\x7d') (by decide) rest
    simp only [Tree.written, List.cons_append, List.append_assoc, List.nil_append]
    rw [Text.unifyLines_cons (by decide), hmembers, Text.unifyLines_cons (by decide)]

theorem Items.unifyLines_written (items : Items) {c : Char} (hc : c ≠ '\n') (rest : List Char) :
    Text.unifyLines (items.written Space.chars ++ c :: rest) =
      items.written Space.unified ++ Text.unifyLines (c :: rest) := by
  cases items with
  | last before item after =>
    have hitem := item.unifyLines_written
    simp only [Items.written, List.append_assoc]
    rw [unifyLines_before _ (item.exists_written _), hitem, Text.unifyLines_append_cons _ hc]
    rfl
  | more before item after others =>
    have hitem := item.unifyLines_written
    have hothers := others.unifyLines_written hc rest
    simp only [Items.written, List.append_assoc, List.cons_append]
    rw [unifyLines_before _ (item.exists_written _), hitem,
      Text.unifyLines_append_cons _ (by decide), Text.unifyLines_cons (by decide), hothers]
    rfl

theorem Members.unifyLines_written (members : Members) {c : Char} (hc : c ≠ '\n')
    (rest : List Char) :
    Text.unifyLines (members.written Space.chars ++ c :: rest) =
      members.written Space.unified ++ Text.unifyLines (c :: rest) := by
  cases members with
  | last key before item after =>
    have hitem := item.unifyLines_written
    simp only [Members.written, List.append_assoc]
    rw [key.unifyLines_written, unifyLines_before _ (item.exists_written _), hitem,
      Text.unifyLines_append_cons _ hc]
    rfl
  | more key before item after others =>
    have hitem := item.unifyLines_written
    have hothers := others.unifyLines_written hc rest
    simp only [Members.written, List.append_assoc, List.cons_append]
    rw [key.unifyLines_written, unifyLines_before _ (item.exists_written _), hitem,
      Text.unifyLines_append_cons _ (by decide), Text.unifyLines_cons (by decide), hothers]
    rfl

end

/-- Unifying the line ends of a text unifies its white space. -/
theorem Source.unifyLines_chars (s : Source) :
    Text.unifyLines s.chars = s.written Space.unified := by
  unfold chars written
  rw [unifyLines_before _ (s.tree.exists_written _), s.tree.unifyLines_written]
  rfl

end Json

end ApiDoc
