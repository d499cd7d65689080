import Mathlib.Data.List.Chain
import ApiDoc.Router.Path

/-!
# Laws of joined paths

A joined path is made of segments that are not empty, each behind one slash, with its parameters in
braces. Writing parameters in braces goes segment by segment (`Path.braced_ofSegments`), for a slash
neither opens a name nor belongs to one. It leaves no parameter behind (`Path.isChain_braced`): what
follows a colon is then no character of a name, and a name that is written has a brace on either
side. So a second time it changes nothing (`Path.braced_braced`). Of the characters of names no more
is used than that slashes, colons and opening braces are not among them.

The segments of a joined path are those of its two parts, written in braces
(`Path.segments_joinChars`). All laws of joining follow from this one.

Main statement: `Path.join_laws`.
-/

namespace ApiDoc.Path

open Text (isWord)

/-! ## Parameters -/

/-- A character does not begin a parameter together with the next one. -/
def Plain (a b : Char) : Prop := ¬ (a = ':' ∧ isWord b = true)

theorem isWord_slash : isWord '/' = false := by decide +kernel

theorem isWord_colon : isWord ':' = false := by decide +kernel

theorem isWord_brace : isWord '\x7b' = false := by decide +kernel

theorem plain_of_ne {a b : Char} (h : a ≠ ':') : Plain a b := fun hab => h hab.1

theorem plain_of_not_isWord {a b : Char} (h : isWord b = false) : Plain a b := fun hab => by
  rw [hab.2] at h
  cases h

/-- A colon opens a parameter when the next character is one of a name. -/
theorem not_opens_iff {c : Char} {cs : List Char} :
    ¬ (c = ':' ∧ (cs.head?.map isWord).getD false = true) ↔ ∀ d ∈ cs.head?, Plain c d := by
  cases cs with
  | nil => simp
  | cons d cs => simp [Plain]

/-- A text outside of a name. -/
theorem braced_false_cons (c : Char) (cs : List Char) :
    braced false (c :: cs) = if c = ':' ∧ (cs.head?.map isWord).getD false = true then
      '\x7b' :: braced true cs else c :: braced false cs := rfl

/-- A name goes on, or it ends before the character and what begins there is outside of it. -/
theorem braced_true_cons (c : Char) (cs : List Char) :
    braced true (c :: cs) =
      if isWord c then c :: braced true cs else '\x7d' :: braced false (c :: cs) := rfl

/-- What stands in braces begins as before, or with a brace. -/
theorem head?_braced {cs : List Char} :
    ∀ c ∈ (braced false cs).head?, c ∈ cs.head? ∨ c = '\x7b' := by
  cases cs with
  | nil => exact nofun
  | cons c cs =>
    intro d hd
    rw [braced_false_cons] at hd
    split at hd
    · exact .inr (Option.some.inj hd).symm
    · exact .inl hd

theorem isChain_braced (inName : Bool) (cs : List Char) : (braced inName cs).IsChain Plain := by
  induction cs generalizing inName with
  | nil =>
    cases inName with
    | false => exact .nil
    | true => exact .singleton _
  | cons c cs ih =>
    -- Whether a name ends here or not, the rest begins with a brace or as it did before.
    have hrest : (braced false (c :: cs)).IsChain Plain := by
      rw [braced_false_cons]
      split
      · exact (ih true).cons fun d _ => plain_of_ne (by decide)
      · rename_i hopens
        refine (ih false).cons fun d hd => ?_
        obtain hd | rfl := head?_braced d hd
        · exact not_opens_iff.mp hopens d hd
        · exact plain_of_not_isWord isWord_brace
    cases inName with
    | false => exact hrest
    | true =>
      rw [braced_true_cons]
      split
      · rename_i hword
        refine (ih true).cons fun d _ => plain_of_ne ?_
        rintro rfl
        simp [isWord_colon] at hword
      · exact hrest.cons fun d _ => plain_of_ne (by decide)

/-- Without parameters nothing is written in braces. -/
theorem braced_of_isChain {cs : List Char} (h : cs.IsChain Plain) : braced false cs = cs := by
  induction cs with
  | nil => rfl
  | cons c cs ih =>
    obtain ⟨hhead, htail⟩ := List.isChain_cons.mp h
    rw [braced_false_cons, if_neg (not_opens_iff.mpr hhead), ih htail]

theorem braced_braced (cs : List Char) : braced false (braced false cs) = braced false cs :=
  braced_of_isChain (isChain_braced false cs)

theorem map_braced_map_braced (ss : List (List Char)) :
    (ss.map (braced false)).map (braced false) = ss.map (braced false) := by
  rw [List.map_map]
  exact List.map_congr_left fun s _ => braced_braced s

theorem mem_of_mem_braced {inName : Bool} {cs : List Char} {c : Char} (h : c ∈ braced inName cs) :
    c ∈ cs ∨ c = '\x7b' ∨ c = '\x7d' := by
  induction cs generalizing inName with
  | nil =>
    cases inName with
    | false => cases h
    | true => exact .inr (.inr (List.mem_singleton.mp h))
  | cons d cs ih =>
    -- Behind a name the text goes on as outside of one, so that case comes down to this one.
    have hrest (h : c ∈ braced false (d :: cs)) : c ∈ d :: cs ∨ c = '\x7b' ∨ c = '\x7d' := by
      rw [braced_false_cons] at h
      split at h
      · obtain rfl | h := List.mem_cons.mp h
        · exact .inr (.inl rfl)
        · exact (ih h).imp_left (List.mem_cons_of_mem d)
      · obtain rfl | h := List.mem_cons.mp h
        · exact .inl List.mem_cons_self
        · exact (ih h).imp_left (List.mem_cons_of_mem d)
    cases inName with
    | false => exact hrest h
    | true =>
      rw [braced_true_cons] at h
      split at h
      · obtain rfl | h := List.mem_cons.mp h
        · exact .inl List.mem_cons_self
        · exact (ih h).imp_left (List.mem_cons_of_mem d)
      · obtain rfl | h := List.mem_cons.mp h
        · exact .inr (.inr rfl)
        · exact hrest h

theorem braced_ne_nil {cs : List Char} (h : cs ≠ []) : braced false cs ≠ [] := by
  cases cs with
  | nil => exact absurd rfl h
  | cons c cs =>
    rw [braced_false_cons]
    split <;> exact List.cons_ne_nil _ _

/-- A slash ends every name, and none begins at it. -/
theorem braced_append_slash (inName : Bool) (cs ds : List Char) :
    braced inName (cs ++ '/' :: ds) = braced inName cs ++ '/' :: braced false ds := by
  induction cs generalizing inName with
  | nil =>
    cases inName with
    | false => rfl
    | true =>
      rw [List.nil_append, braced_true_cons, isWord_slash]
      rfl
  | cons c cs ih =>
    -- A colon looks one character ahead; a slash there counts as the end of the text does.
    have hhead :
        ((cs ++ '/' :: ds).head?.map isWord).getD false = (cs.head?.map isWord).getD false := by
      cases cs <;> simp [isWord_slash]
    have hrest :
        braced false (c :: cs ++ '/' :: ds) = braced false (c :: cs) ++ '/' :: braced false ds := by
      rw [List.cons_append, braced_false_cons, braced_false_cons, hhead, ih, ih]
      split <;> rfl
    cases inName with
    | false => exact hrest
    | true =>
      rw [List.cons_append] at hrest ⊢
      rw [braced_true_cons, braced_true_cons, hrest, ih]
      split <;> rfl

/-! ## Segments -/

/-- A text can be a segment of a path. -/
def IsSegment (s : List Char) : Prop := s ≠ [] ∧ '/' ∉ s

theorem isSegment_of_mem_segments {cs s : List Char} (h : s ∈ segments cs) : IsSegment s := by
  obtain ⟨hpiece, hne⟩ := List.mem_filter.mp h
  exact ⟨by simpa using hne, Text.not_mem_of_mem_pieces hpiece⟩

theorem IsSegment.braced {s : List Char} (h : IsSegment s) : IsSegment (braced false s) := by
  refine ⟨braced_ne_nil h.1, fun hmem => ?_⟩
  obtain hmem | hmem | hmem := mem_of_mem_braced hmem
  · exact h.2 hmem
  · exact absurd hmem (by decide)
  · exact absurd hmem (by decide)

/-- A path has the segments before a slash and those behind it. -/
theorem segments_append (cs ds : List Char) :
    segments (cs ++ '/' :: ds) = segments cs ++ segments ds := by
  rw [segments, Text.pieces_append, List.filter_append, segments, segments]

theorem segments_nil : segments [] = [] := rfl

theorem segments_of_isSegment {s : List Char} (h : IsSegment s) : segments s = [s] := by
  rw [segments, Text.pieces_of_not_mem h.2]
  simp [h.1]

/-- A path made of segments has these segments. -/
theorem segments_ofSegments {ss : List (List Char)} (h : ∀ s ∈ ss, IsSegment s) :
    segments (ofSegments ss) = ss := by
  have hbehind : ∀ cs, segments (cs ++ ss.flatMap ('/' :: ·)) = segments cs ++ ss := by
    induction ss with
    | nil => simp
    | cons s ss ih =>
      intro cs
      obtain ⟨hs, hss⟩ := List.forall_mem_cons.mp h
      rw [List.flatMap_cons, List.cons_append, segments_append, ih hss, segments_of_isSegment hs,
        List.singleton_append]
  cases ss with
  | nil => rfl
  | cons s ss => exact hbehind []

/-- Parameters are written in braces segment by segment. -/
theorem braced_ofSegments (ss : List (List Char)) :
    braced false (ofSegments ss) = ofSegments (ss.map (braced false)) := by
  have hbehind : ∀ cs, braced false (cs ++ ss.flatMap ('/' :: ·)) =
      braced false cs ++ (ss.map (braced false)).flatMap ('/' :: ·) := by
    induction ss with
    | nil => simp
    | cons s ss ih =>
      intro cs
      rw [List.flatMap_cons, List.cons_append, braced_append_slash, ih, List.map_cons,
        List.flatMap_cons, List.cons_append]
  cases ss with
  | nil => decide +kernel
  | cons s ss => exact hbehind []

/-! ## Joined paths -/

theorem joinChars_eq (mount path : List Char) :
    joinChars mount path = ofSegments ((segments mount ++ segments path).map (braced false)) := by
  rw [joinChars, segments_append]

theorem isSegment_of_mem_joined {mount path s : List Char}
    (h : s ∈ (segments mount ++ segments path).map (braced false)) : IsSegment s := by
  obtain ⟨t, ht, rfl⟩ := List.mem_map.mp h
  obtain ht | ht := List.mem_append.mp ht
  · exact (isSegment_of_mem_segments ht).braced
  · exact (isSegment_of_mem_segments ht).braced

/-- **Segments of a joined path** are those of its parts, with parameters in braces. -/
theorem segments_joinChars (mount path : List Char) :
    segments (joinChars mount path) = (segments mount ++ segments path).map (braced false) := by
  rw [joinChars_eq, segments_ofSegments fun s => isSegment_of_mem_joined]

example : join "/v1/" "//users/:id" = "/v1/users/\x7bid\x7d" := by decide +kernel

/-- What holds of neighbours in each segment, and of a slash and its neighbours, holds of all
neighbours in a path. -/
theorem isChain_ofSegments {R : Char → Char → Prop} {ss : List (List Char)}
    (hne : ∀ s ∈ ss, s ≠ []) (h : ∀ s ∈ ss, s.IsChain R)
    (hfirst : ∀ s ∈ ss, ∀ c ∈ s.head?, R '/' c) (hlast : ∀ s ∈ ss, ∀ c ∈ s.getLast?, R c '/') :
    (ofSegments ss).IsChain R := by
  have hall : (ss.flatMap ('/' :: ·)).IsChain R := by
    induction ss with
    | nil => exact .nil
    | cons s ss ih =>
      rw [List.forall_mem_cons] at hne h hfirst hlast
      rw [List.flatMap_cons]
      refine (h.1.cons hfirst.1).append (ih hne.2 h.2 hfirst.2 hlast.2) fun c hc d hd => ?_
      -- What comes next, if anything, is the slash of the next segment.
      obtain rfl : d = '/' := by
        cases ss with
        | nil => cases hd
        | cons t ss => exact (Option.some.inj hd).symm
      rw [List.getLast?_cons_of_ne_nil hne.1] at hc
      exact hlast.1 c hc
  cases ss with
  | nil => exact .singleton '/'
  | cons s ss => exact hall

/-- Where no segment has a slash, no two slashes are neighbours. -/
theorem isChain_slash_ofSegments {ss : List (List Char)} (h : ∀ s ∈ ss, IsSegment s) :
    (ofSegments ss).IsChain fun a b => ¬ (a = '/' ∧ b = '/') := by
  have hslash (s : List Char) (hs : s ∈ ss) (c : Char) (hc : c ∈ s) : c ≠ '/' := fun heq =>
    (h s hs).2 (heq ▸ hc)
  refine isChain_ofSegments (fun s hs => (h s hs).1) (fun s hs => ?_) (fun s hs c hc hcc => ?_)
    fun s hs c hc hcc => ?_
  · exact List.Pairwise.isChain (List.pairwise_of_forall_mem_list fun a ha b _ hab =>
      hslash s hs a ha hab.1)
  · exact hslash s hs c (List.mem_of_mem_head? hc) hcc.2
  · exact hslash s hs c (List.mem_of_mem_getLast? hc) hcc.1

theorem getLast?_ofSegments_concat (ss : List (List Char)) {s : List Char} (h : s ≠ []) :
    (ofSegments (ss.concat s)).getLast? = s.getLast? := by
  have hflat : ofSegments (ss.concat s) = ss.flatMap ('/' :: ·) ++ '/' :: s := by
    cases ss <;> simp [ofSegments]
  rw [hflat, List.getLast?_append_of_ne_nil _ (List.cons_ne_nil _ _),
    List.getLast?_cons_of_ne_nil h]

/-- What a path looks like when it is finished: it begins with a slash, has no two slashes in a row
and no parameter behind a colon, and ends with a slash only if it is nothing else. -/
structure IsNormal (path : List Char) : Prop where
  slash : path.head? = some '/'
  single : ¬ ['/', '/'] <:+: path
  last : path.getLast? = some '/' → path = ['/']
  plain : ∀ c, isWord c = true → ¬ [':', c] <:+: path

theorem isNormal_joinChars (mount path : List Char) : IsNormal (joinChars mount path) := by
  rw [joinChars_eq]
  have hsegment (s : List Char) (h : s ∈ (segments mount ++ segments path).map (braced false)) :
      IsSegment s := isSegment_of_mem_joined h
  have hchain : ∀ s ∈ (segments mount ++ segments path).map (braced false), s.IsChain Plain := by
    refine List.forall_mem_map.mpr fun t _ => isChain_braced false t
  generalize (segments mount ++ segments path).map (braced false) = ss at hsegment hchain
  have hne (s : List Char) (h : s ∈ ss) : s ≠ [] := (hsegment s h).1
  refine ⟨?_, fun hinfix => ?_, fun hlast => ?_, fun c hc hinfix => ?_⟩
  · cases ss <;> rfl
  · have hsingle := isChain_slash_ofSegments hsegment
    have hpair : ['/', '/'].IsChain fun a b => ¬ (a = '/' ∧ b = '/') := hsingle.infix hinfix
    exact List.isChain_pair.mp hpair ⟨rfl, rfl⟩
  · obtain rfl | ⟨ss, s, rfl⟩ := List.eq_nil_or_concat ss
    · rfl
    · have hs : s ∈ ss.concat s := by simp
      rw [getLast?_ofSegments_concat ss (hne s hs)] at hlast
      exact absurd (List.mem_of_mem_getLast? hlast) (hsegment s hs).2
  · -- No colon of a segment is left before a word character, and a slash is neither.
    have hplain : (ofSegments ss).IsChain Plain :=
      isChain_ofSegments hne hchain (fun s _ d _ => plain_of_ne (by decide))
        fun s _ d _ => plain_of_not_isWord isWord_slash
    have hpair : [':', c].IsChain Plain := hplain.infix hinfix
    exact List.isChain_pair.mp hpair ⟨rfl, hc⟩

theorem joinChars_nil_joinChars (mount path : List Char) :
    joinChars [] (joinChars mount path) = joinChars mount path := by
  rw [joinChars_eq, segments_joinChars, segments_nil, List.nil_append, map_braced_map_braced,
    joinChars_eq]

theorem joinChars_assoc (a b c : List Char) :
    joinChars (joinChars a b) c = joinChars a (joinChars b c) := by
  rw [joinChars_eq (joinChars a b), joinChars_eq a (joinChars b c), segments_joinChars,
    segments_joinChars]
  simp only [List.map_append, map_braced_map_braced, List.append_assoc]

/-- **Joining paths.** A joined path is normal, and it is what writing all parameters of its
segments in braces gives. It is decided by the sequence of the segments of both parts, which does
not change with slashes that are doubled, leading or trailing. Joining a joined path to nothing
leaves it as it is, and it does not matter which two of three paths are joined first. -/
theorem join_laws :
    (∀ mount path, IsNormal (join mount path).toList) ∧
      (∀ mount path, (join mount path).toList =
        braced false (ofSegments (segments mount.toList ++ segments path.toList))) ∧
      (∀ front behind,
        segments (front ++ '/' :: '/' :: behind) = segments (front ++ '/' :: behind) ∧
        segments ('/' :: behind) = segments behind ∧ segments (front ++ ['/']) = segments front) ∧
      (∀ mount path, join "" (join mount path) = join mount path) ∧
      ∀ a b c, join (join a b) c = join a (join b c) := by
  have hchars (mount path : String) :
      (join mount path).toList = joinChars mount.toList path.toList :=
    String.toList_ofList
  refine ⟨fun mount path => ?_, fun mount path => ?_, fun front behind => ⟨?_, ?_, ?_⟩,
    fun mount path => ?_, fun a b c => ?_⟩
  · rw [hchars]
    exact isNormal_joinChars _ _
  · rw [hchars, joinChars_eq, braced_ofSegments]
  · rw [segments_append, segments_append, ← List.nil_append ('/' :: behind), segments_append,
      segments_nil, List.nil_append]
  · exact segments_append [] behind
  · rw [segments_append, segments_nil, List.append_nil]
  · rw [← String.toList_inj, hchars, hchars]
    exact joinChars_nil_joinChars _ _
  · rw [← String.toList_inj, hchars, hchars, hchars, hchars]
    exact joinChars_assoc _ _ _

end ApiDoc.Path
