import ApiDoc.Proofs.Json.Lines
import ApiDoc.Proofs.Yaml.Lexing

/-!
# Tokens of JSON texts

The lexer cuts a JSON text of the common part into the tokens that its tree gives, white space
aside.

Main statement: `Source.tokens_ofText`.
-/

namespace ApiDoc.Json

open Yaml

/-! ## The tokens of a tree -/

/-- The tokens of a key and its colon. -/
def Key.tokens (k : Key) : List Token := [.key, .scalar false (stringValue k.letters), .value]

mutual

def Tree.tokens : Tree → List Token
  | .scalar s => [s.token]
  | .emptyArray _ => [.flowSequence, .flowSequenceEnd]
  | .array items => .flowSequence :: items.tokens
  | .emptyObject _ => [.flowMapping, .flowMappingEnd]
  | .object members => .flowMapping :: members.tokens

/-- The tokens of items up to the closing bracket. -/
def Items.tokens : Items → List Token
  | .last _ item _ => item.tokens ++ [.flowSequenceEnd]
  | .more _ item _ rest => item.tokens ++ ([.comma] ++ rest.tokens)

/-- The tokens of entries up to the closing brace. -/
def Members.tokens : Members → List Token
  | .last key _ item _ => key.tokens ++ (item.tokens ++ [.flowMappingEnd])
  | .more key _ item _ rest => key.tokens ++ (item.tokens ++ ([.comma] ++ rest.tokens))

end

/-! ## Scalars -/

theorem Numeral.isWord (n : Numeral) : Lexing.IsWord n.chars where
  chars c hc := List.mem_append_left _ (n.mem_numeralChars_of_chars c hc)
  start := by
    obtain ⟨d, cs, hmagnitude, hd⟩ := n.exists_magnitude
    unfold Numeral.chars
    split
    · exact ⟨'-', _, rfl, .inr ⟨rfl, d, cs, hmagnitude, mem_digitChars hd⟩⟩
    · exact ⟨d, cs, hmagnitude, .inl (List.mem_append_right _ (mem_digitChars hd))⟩

variable {s : Lexing} {depth : Nat} {gap rest : List Char}

/-- A scalar inside of a collection, with the white space behind it. -/
theorem lexes_scalar {x : Scalar} (hx : x.IsCommon) (hgap : IsGap gap) {c : Char} {cs : List Char}
    (hc : Lexing.IsCloser c) (h : s.IsAt (depth + 1) (x.chars ++ (gap ++ c :: cs))) :
    ∃ s', Lexing.Lexes [x.token] s s' ∧ s'.IsAt (depth + 1) (c :: cs) := by
  have hword (hword : Lexing.IsWord x.chars) (htoken : x.token = .scalar true (.ofList x.chars)) :
      ∃ s', Lexing.Lexes [x.token] s s' ∧ s'.IsAt (depth + 1) (c :: cs) := by
    obtain ⟨s', hs', hstands⟩ := Lexing.lexes_word hword hgap hc h
    exact ⟨s', htoken ▸ hs', hstands.isAt⟩
  cases x with
  | null => exact hword ⟨List.all_iff_forall_prop.mp (by decide), 'n', _, rfl, .inl (by decide)⟩ rfl
  | bool b =>
    cases b <;> exact hword ⟨List.all_iff_forall_prop.mp (by decide), _, _, rfl, .inl (by decide)⟩
      rfl
  | number n => exact hword n.isWord rfl
  | string ls =>
    obtain ⟨s', hs', hstands, -⟩ := Lexing.lexes_quoted hx h
    exact ⟨s', hs', hstands.isAt.behind hgap⟩

/-! ## Trees -/

/-- Whether a value has no parts. -/
def Tree.IsScalar : Tree → Prop
  | .scalar _ => True
  | _ => False

/-- A key, with the white space around it, and its colon. -/
theorem lexes_key {k : Key} (hk : k.IsCommon)
    (h : s.IsAt (depth + 1) (k.written Space.unified ++ rest)) (hkey : s.keyAllowed = true) :
    ∃ s', Lexing.Lexes k.tokens s s' ∧ s'.Stands (depth + 1) rest := by
  simp only [Key.written, List.append_assoc, List.cons_append, List.nil_append] at h
  obtain ⟨s', hs', hstands, hcandidate⟩ :=
    Lexing.lexes_quoted hk.letters (h.behind (forall_mem_unified hk.before))
  rw [unified_of_spaces hk.after] at hstands
  refine Lexing.lexes_key hs' hstands (hcandidate hkey) (forall_mem_chars_of_spaces hk.after) ?_
  rw [Space.chars, List.length_map]
  exact hk.near

mutual

/-- A value, with the white space behind it. A scalar has to be inside of a collection. -/
theorem lexes_tree (t : Tree) (ht : t.IsCommon) {s : Lexing} {depth : Nat} {gap rest : List Char}
    (hgap : IsGap gap)
    (hscalar : t.IsScalar → 0 < depth ∧ ∃ c cs, rest = c :: cs ∧ Lexing.IsCloser c)
    (h : s.IsAt depth (t.written Space.unified ++ (gap ++ rest))) :
    ∃ s', Lexing.Lexes t.tokens s s' ∧ s'.IsAt depth rest := by
  -- Only a scalar needs to know what follows; a container is ended by its own bracket.
  cases t with
  | scalar x =>
    obtain ⟨hdepth, c, cs, rfl, hc⟩ := hscalar trivial
    cases depth with
    | zero => exact absurd hdepth (Nat.lt_irrefl 0)
    | succ depth => exact lexes_scalar ht hgap hc h
  | emptyArray space =>
    simp only [Tree.written, List.cons_append, List.append_assoc, List.nil_append] at h
    obtain ⟨s₁, hs₁, hstands, -⟩ := Lexing.lexes_open h (.inl ⟨rfl, rfl⟩)
    obtain ⟨s₂, hs₂, hstands⟩ :=
      Lexing.lexes_close (hstands.isAt.behind (forall_mem_unified ht)) (.inl ⟨rfl, rfl⟩)
    exact ⟨s₂, hs₁.trans hs₂, hstands.isAt.behind hgap⟩
  | array items =>
    simp only [Tree.written, List.cons_append, List.append_assoc, List.nil_append] at h
    obtain ⟨s₁, hs₁, hstands, -⟩ := Lexing.lexes_open h (.inl ⟨rfl, rfl⟩)
    obtain ⟨s₂, hs₂, hstands⟩ := lexes_items items ht hstands.isAt
    exact ⟨s₂, hs₁.trans hs₂, hstands.isAt.behind hgap⟩
  | emptyObject space =>
    simp only [Tree.written, List.cons_append, List.append_assoc, List.nil_append] at h
    obtain ⟨s₁, hs₁, hstands, -⟩ := Lexing.lexes_open h (.inr ⟨rfl, rfl⟩)
    obtain ⟨s₂, hs₂, hstands⟩ :=
      Lexing.lexes_close (hstands.isAt.behind (forall_mem_unified ht)) (.inr ⟨rfl, rfl⟩)
    exact ⟨s₂, hs₁.trans hs₂, hstands.isAt.behind hgap⟩
  | object members =>
    simp only [Tree.written, List.cons_append, List.append_assoc, List.nil_append] at h
    obtain ⟨s₁, hs₁, hstands, hkey⟩ := Lexing.lexes_open h (.inr ⟨rfl, rfl⟩)
    obtain ⟨s₂, hs₂, hstands⟩ := lexes_members members ht hstands.isAt hkey
    exact ⟨s₂, hs₁.trans hs₂, hstands.isAt.behind hgap⟩

/-- The items of an array, up to its closing bracket. -/
theorem lexes_items (items : Items) (hitems : items.IsCommon) {s : Lexing} {depth : Nat}
    {rest : List Char} (h : s.IsAt (depth + 1) (items.written Space.unified ++ ']' :: rest)) :
    ∃ s', Lexing.Lexes items.tokens s s' ∧ s'.Stands depth rest := by
  cases items with
  | last before item after =>
    obtain ⟨hbefore, hitem, hafter⟩ := hitems
    simp only [Items.written, List.append_assoc] at h
    obtain ⟨s₁, hs₁, hat⟩ := lexes_tree item hitem (forall_mem_unified hafter)
      (fun _ => ⟨Nat.succ_pos _, _, _, rfl, .inr (.inl rfl)⟩)
      (h.behind (forall_mem_unified hbefore))
    obtain ⟨s₂, hs₂, hstands⟩ := Lexing.lexes_close hat (.inl ⟨rfl, rfl⟩)
    exact ⟨s₂, hs₁.trans hs₂, hstands⟩
  | more before item after others =>
    obtain ⟨hbefore, hitem, hafter, hothers⟩ := hitems
    simp only [Items.written, List.append_assoc, List.cons_append] at h
    obtain ⟨s₁, hs₁, hat⟩ := lexes_tree item hitem (forall_mem_unified hafter)
      (fun _ => ⟨Nat.succ_pos _, _, _, rfl, .inl rfl⟩) (h.behind (forall_mem_unified hbefore))
    obtain ⟨s₂, hs₂, hstands, -⟩ := Lexing.lexes_comma hat
    obtain ⟨s₃, hs₃, hstands⟩ := lexes_items others hothers hstands.isAt
    exact ⟨s₃, hs₁.trans (hs₂.trans hs₃), hstands⟩

/-- The entries of an object, up to its closing brace. -/
theorem lexes_members (members : Members) (hmembers : members.IsCommon) {s : Lexing} {depth : Nat}
    {rest : List Char} (h : s.IsAt (depth + 1) (members.written Space.unified ++ '\x7d' :: rest))
    (hkey : s.keyAllowed = true) :
    ∃ s', Lexing.Lexes members.tokens s s' ∧ s'.Stands depth rest := by
  cases members with
  | last key before item after =>
    obtain ⟨hkeyCommon, hbefore, hitem, hafter⟩ := hmembers
    simp only [Members.written, List.append_assoc] at h
    obtain ⟨s₁, hs₁, hstands⟩ := lexes_key hkeyCommon h hkey
    obtain ⟨s₂, hs₂, hat⟩ := lexes_tree item hitem (forall_mem_unified hafter)
      (fun _ => ⟨Nat.succ_pos _, _, _, rfl, .inr (.inr rfl)⟩)
      (hstands.isAt.behind (forall_mem_unified hbefore))
    obtain ⟨s₃, hs₃, hstands⟩ := Lexing.lexes_close hat (.inr ⟨rfl, rfl⟩)
    exact ⟨s₃, hs₁.trans (hs₂.trans hs₃), hstands⟩
  | more key before item after others =>
    obtain ⟨hkeyCommon, hbefore, hitem, hafter, hothers⟩ := hmembers
    simp only [Members.written, List.append_assoc, List.cons_append] at h
    obtain ⟨s₁, hs₁, hstands⟩ := lexes_key hkeyCommon h hkey
    obtain ⟨s₂, hs₂, hat⟩ := lexes_tree item hitem (forall_mem_unified hafter)
      (fun _ => ⟨Nat.succ_pos _, _, _, rfl, .inl rfl⟩)
      (hstands.isAt.behind (forall_mem_unified hbefore))
    obtain ⟨s₃, hs₃, hstands, hkey⟩ := Lexing.lexes_comma hat
    obtain ⟨s₄, hs₄, hstands⟩ := lexes_members others hothers hstands.isAt hkey
    exact ⟨s₄, hs₁.trans (hs₂.trans (hs₃.trans hs₄)), hstands⟩

end

/-! ## Characters that a text may hold -/

theorem isAllowed_of_mem_unified {s : Space} (h : s.IsCommon) :
    ∀ c ∈ s.unified, isAllowed c = true := by
  intro c hc
  obtain rfl | rfl := forall_mem_unified h c hc <;> rfl

theorem isAllowed_of_mem_scalar {x : Scalar} (hx : x.IsCommon) :
    ∀ c ∈ x.chars, isAllowed c = true := by
  cases x with
  | null => exact List.all_iff_forall_prop.mp (by decide)
  | bool b => cases b <;> exact List.all_iff_forall_prop.mp (by decide)
  | number n => exact n.forall_mem_chars (p := fun c => isAllowed c = true) (by decide)
  | string ls => exact fun c hc => (Lexing.isInLine_of_mem_quoted hx c hc).1

theorem isAllowed_of_mem_key {k : Key} (hk : k.IsCommon) :
    ∀ c ∈ k.written Space.unified, isAllowed c = true := by
  have hafter : k.after.IsCommon := fun htab => nomatch hk.after _ htab
  simp only [Key.written, List.forall_mem_append]
  exact ⟨isAllowed_of_mem_unified hk.before,
    fun c hc => (Lexing.isInLine_of_mem_quoted hk.letters c hc).1, isAllowed_of_mem_unified hafter,
    List.forall_mem_singleton.mpr rfl⟩

mutual

theorem isAllowed_of_mem_tree (t : Tree) (ht : t.IsCommon) :
    ∀ c ∈ t.written Space.unified, isAllowed c = true := by
  cases t with
  | scalar x => exact isAllowed_of_mem_scalar ht
  | emptyArray space | emptyObject space =>
    simp only [Tree.written, List.forall_mem_cons, List.forall_mem_append]
    exact ⟨by decide, isAllowed_of_mem_unified ht, by decide, List.forall_mem_nil _⟩
  | array items =>
    simp only [Tree.written, List.forall_mem_cons, List.forall_mem_append]
    exact ⟨by decide, isAllowed_of_mem_items items ht, by decide, List.forall_mem_nil _⟩
  | object members =>
    simp only [Tree.written, List.forall_mem_cons, List.forall_mem_append]
    exact ⟨by decide, isAllowed_of_mem_members members ht, by decide, List.forall_mem_nil _⟩

theorem isAllowed_of_mem_items (items : Items) (hitems : items.IsCommon) :
    ∀ c ∈ items.written Space.unified, isAllowed c = true := by
  cases items with
  | last before item after =>
    obtain ⟨hbefore, hitem, hafter⟩ := hitems
    simp only [Items.written, List.forall_mem_append]
    exact ⟨isAllowed_of_mem_unified hbefore, isAllowed_of_mem_tree item hitem,
      isAllowed_of_mem_unified hafter⟩
  | more before item after others =>
    obtain ⟨hbefore, hitem, hafter, hothers⟩ := hitems
    simp only [Items.written, List.forall_mem_cons, List.forall_mem_append]
    exact ⟨isAllowed_of_mem_unified hbefore, isAllowed_of_mem_tree item hitem,
      isAllowed_of_mem_unified hafter, by decide, isAllowed_of_mem_items others hothers⟩

theorem isAllowed_of_mem_members (members : Members) (hmembers : members.IsCommon) :
    ∀ c ∈ members.written Space.unified, isAllowed c = true := by
  cases members with
  | last key before item after =>
    obtain ⟨hkey, hbefore, hitem, hafter⟩ := hmembers
    simp only [Members.written, List.forall_mem_append]
    exact ⟨isAllowed_of_mem_key hkey, isAllowed_of_mem_unified hbefore,
      isAllowed_of_mem_tree item hitem, isAllowed_of_mem_unified hafter⟩
  | more key before item after others =>
    obtain ⟨hkey, hbefore, hitem, hafter, hothers⟩ := hmembers
    simp only [Members.written, List.forall_mem_cons, List.forall_mem_append]
    exact ⟨isAllowed_of_mem_key hkey, isAllowed_of_mem_unified hbefore,
      isAllowed_of_mem_tree item hitem, isAllowed_of_mem_unified hafter,
      by decide, isAllowed_of_mem_members others hothers⟩

end

/-! ## Texts -/

/-- A text of the common part whose value is a container has the tokens that its tree gives. -/
theorem Source.tokens_ofText {x : Source} (hx : x.IsCommon) (htree : ¬ x.tree.IsScalar) :
    Yaml.Tokens.ofText (x.written Space.unified) = ⟨x.tree.tokens ++ [.streamEnd], none⟩ := by
  obtain ⟨hbefore, ht, hafter⟩ := hx
  have hallowed : (x.written Space.unified).all isAllowed = true := by
    refine List.all_eq_true.mpr ?_
    simp only [written, List.forall_mem_append]
    exact ⟨isAllowed_of_mem_unified hbefore, isAllowed_of_mem_tree x.tree ht,
      isAllowed_of_mem_unified hafter⟩
  have hstart : ({ cursor := ⟨x.written Space.unified, 0, 0, 0⟩ } : Lexing).IsAt 0
      (x.tree.written Space.unified ++ (x.after.unified ++ [])) :=
    ⟨x.before.unified, forall_mem_unified hbefore, rfl, List.forall_mem_nil _, rfl,
      by rw [List.append_nil]; rfl⟩
  obtain ⟨s', hlex, hat⟩ :=
    lexes_tree x.tree ht (forall_mem_unified hafter) (fun h => absurd h htree) hstart
  rw [Yaml.Tokens.ofText, if_pos hallowed]
  exact Lexing.readAll_of_lexes hlex hat rfl

end ApiDoc.Json
