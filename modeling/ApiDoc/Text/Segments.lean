/-!
# Cutting and joining text

Text is cut at a separator into the pieces between its occurrences, and trimmed at both ends of
the characters of a class.

Main statements: `join_pieces`, the pieces joined again give the text, and `pieces_append`, a text
is cut in two at each separator.
-/

namespace ApiDoc.Text

/-- The pieces between the occurrences of a separator: one more than it has occurrences. -/
def pieces (sep : Char) : List Char → List (List Char)
  | [] => [[]]
  | c :: cs =>
    if c = sep then [] :: pieces sep cs
    else
      match pieces sep cs with
      | p :: ps => (c :: p) :: ps
      | [] => [[c]]

/-- The pieces with the separator between them. -/
def join (sep : List Char) : List (List Char) → List Char
  | [] => []
  | [p] => p
  | p :: ps => p ++ sep ++ join sep ps

/-- The text without the leading and trailing characters of a class. -/
def trim (p : Char → Bool) (cs : List Char) : List Char :=
  ((cs.dropWhile p).reverse.dropWhile p).reverse

theorem pieces_cons_self (sep : Char) (cs : List Char) :
    pieces sep (sep :: cs) = [] :: pieces sep cs :=
  if_pos rfl

theorem pieces_cons_of_ne {sep c : Char} (h : c ≠ sep) {cs p : List Char} {ps : List (List Char)}
    (hp : pieces sep cs = p :: ps) : pieces sep (c :: cs) = (c :: p) :: ps := by
  rw [pieces, if_neg h, hp]

/-- There is a first piece. -/
theorem exists_pieces_eq (sep : Char) (cs : List Char) : ∃ p ps, pieces sep cs = p :: ps := by
  induction cs with
  | nil => exact ⟨[], [], rfl⟩
  | cons c cs ih =>
    by_cases h : c = sep
    · rw [h]
      exact ⟨[], _, pieces_cons_self sep cs⟩
    · obtain ⟨p, ps, hp⟩ := ih
      exact ⟨c :: p, ps, pieces_cons_of_ne h hp⟩

theorem join_pieces (sep : Char) (cs : List Char) : join [sep] (pieces sep cs) = cs := by
  induction cs with
  | nil => rfl
  | cons c cs ih =>
    obtain ⟨p, ps, hp⟩ := exists_pieces_eq sep cs
    by_cases h : c = sep
    · rw [h, pieces_cons_self]
      rw [hp] at ih ⊢
      exact congrArg (sep :: ·) ih
    · rw [pieces_cons_of_ne h hp]
      rw [hp] at ih
      cases ps <;> exact congrArg (c :: ·) ih

/-- A text without a separator is of one piece. -/
theorem pieces_of_not_mem {sep : Char} {cs : List Char} (h : sep ∉ cs) : pieces sep cs = [cs] := by
  induction cs with
  | nil => rfl
  | cons c cs ih =>
    obtain ⟨hc, hcs⟩ := not_or.mp (mt List.mem_cons.mpr h)
    exact pieces_cons_of_ne (Ne.symm hc) (ih hcs)

/-- At a separator a text is cut in two. -/
theorem pieces_append (sep : Char) (cs ds : List Char) :
    pieces sep (cs ++ sep :: ds) = pieces sep cs ++ pieces sep ds := by
  induction cs with
  | nil => exact pieces_cons_self sep ds
  | cons c cs ih =>
    rw [List.cons_append]
    by_cases h : c = sep
    · rw [h, pieces_cons_self, pieces_cons_self, ih, List.cons_append]
    · obtain ⟨p, ps, hp⟩ := exists_pieces_eq sep cs
      rw [hp, List.cons_append] at ih
      rw [pieces_cons_of_ne h hp, pieces_cons_of_ne h ih, List.cons_append]

theorem not_mem_of_mem_pieces {sep : Char} {cs p : List Char} (h : p ∈ pieces sep cs) :
    sep ∉ p := by
  induction cs generalizing p with
  | nil =>
    obtain rfl := List.mem_singleton.mp h
    exact List.not_mem_nil
  | cons c cs ih =>
    by_cases hc : c = sep
    · rw [hc, pieces_cons_self, List.mem_cons] at h
      obtain rfl | h := h
      · exact List.not_mem_nil
      · exact ih h
    · obtain ⟨q, ps, hp⟩ := exists_pieces_eq sep cs
      rw [hp] at ih
      rw [pieces_cons_of_ne hc hp, List.mem_cons] at h
      obtain rfl | h := h
      · simpa [Ne.symm hc] using ih List.mem_cons_self
      · exact ih (List.mem_cons_of_mem q h)

end ApiDoc.Text
