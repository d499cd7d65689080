import ApiDoc.Files.Disk

/-!
# The files of a disk

`Disk.file?` tells the bytes at a place where a file is. Directories are no files, so making them
leaves the files of a disk as they are (`Disk.sameFiles_makeDirectories`), whether it succeeds or
fails on the way. Writing changes the file that a path leads to and no other, and the path still
leads there afterwards. So a file that has been written can be written again, and then has the bytes
of the second time (`Disk.write_of_write`).

Two disks can be the same but for what is in the file at one place (`Disk.SameBesides`). Where a
path leads and what stands in the way depends on which files and directories there are, and not on
what is in a file. So changes of such disks end alike, and leave such disks behind
(`Disk.SameBesides.write`, `Disk.SameBesides.makeDirectories`).
-/

namespace ApiDoc.Disk

variable {d e : Disk} {p : FilePath} {place q : List String} {x : Entry} {bytes : List UInt8}

/-- The bytes of the file at a place. -/
def file? (d : Disk) (place : List String) : Option (List UInt8) :=
  match d.content? place with
  | some (.file bytes) => some bytes
  | _ => none

/-- Two disks have the same files with the same bytes. -/
def SameFiles (d e : Disk) : Prop := ∀ place, e.file? place = d.file? place

/-- A path leads to a file with the given bytes on the disk `e`; all other files are those of
`d`. -/
def Overwritten (d : Disk) (p : FilePath) (bytes : List UInt8) (e : Disk) : Prop :=
  ∃ place, e.placeOf p = .ok place ∧ e.file? place = some bytes ∧ ∀ q ≠ place, e.file? q = d.file? q

theorem SameFiles.refl (d : Disk) : SameFiles d d := fun _ => rfl

theorem SameFiles.trans {f : Disk} (h : SameFiles d e) (h' : SameFiles e f) : SameFiles d f :=
  fun place => (h' place).trans (h place)

theorem SameFiles.overwritten {f : Disk} (h : SameFiles d e) (h' : Overwritten e p bytes f) :
    Overwritten d p bytes f := by
  obtain ⟨place, hplace, hfile, hothers⟩ := h'
  exact ⟨place, hplace, hfile, fun q hq => (hothers q hq).trans (h q)⟩

/-! ## One place -/

theorem lookup_filter_ne {entries : List (List String × Entry)} (h : q ≠ place) :
    (entries.filter (·.1 ≠ place)).lookup q = entries.lookup q := by
  induction entries with
  | nil => rfl
  | cons entry entries ih =>
    obtain ⟨k, y⟩ := entry
    by_cases hk : k = place
    · subst hk
      have hq : (q == k) = false := by simpa using h
      simpa [List.lookup_cons, hq] using ih
    · simp only [List.filter_cons, ne_eq, hk, not_false_eq_true, decide_true, if_true,
        List.lookup_cons, ih]

theorem lookup_filter_self {entries : List (List String × Entry)} :
    (entries.filter (·.1 ≠ place)).lookup place = none := by
  induction entries with
  | nil => rfl
  | cons entry entries ih =>
    obtain ⟨k, y⟩ := entry
    by_cases hk : k = place
    · simpa [List.filter_cons, hk] using ih
    · have hne : (place == k) = false := by simpa using Ne.symm hk
      simpa [List.filter_cons, hk, List.lookup_cons, hne] using ih

theorem content?_put_of_ne (h : q ≠ place) : (d.put place x).content? q = d.content? q := by
  have hq : (q == place) = false := by simpa using h
  unfold content? put
  rw [List.lookup_append, lookup_filter_ne h, List.lookup_cons, hq]
  simp

theorem content?_put_self (h : isGiven place = false) :
    (d.put place x).content? place = some x := by
  unfold content? put
  rw [List.lookup_append, lookup_filter_self]
  simp [h]

/-- A place where there is no directory is none of those that are always there. -/
theorem isGiven_eq_false (h : d.content? place ≠ some .directory) : isGiven place = false :=
  Bool.eq_false_iff.mpr fun hgiven => h (if_pos hgiven)

theorem file?_put_of_ne (h : q ≠ place) : (d.put place x).file? q = d.file? q := by
  simp only [file?, content?_put_of_ne h]

/-! ## Following a path -/

/-- A file that takes no directory's place does not change where a path leads. -/
theorem follow_put {path : String} {start : List String} {names : List String}
    (hplace : d.content? place ≠ some .directory) (h : d.follow path start names = .ok q) :
    (d.put place x).follow path start names = .ok q := by
  induction names generalizing start with
  | nil => exact h
  | cons name names ih =>
    rw [follow] at h ⊢
    split at h
    · cases h
    · cases h
    · rename_i hstart
      have hne : start ≠ place := fun heq => hplace (heq ▸ hstart)
      rw [content?_put_of_ne hne, hstart]
      dsimp only
      split at h
      · rename_i hup
        rw [if_pos hup]
        exact ih h
      · rename_i hup
        rw [if_neg hup]
        exact ih h

/-! ## Making directories -/

theorem sameFiles_makeDirectory (h : d.makeDirectory p = .ok e) : SameFiles d e := by
  unfold makeDirectory at h
  cases hplace : d.placeOf p with
  | error err => rw [hplace] at h; cases h
  | ok place =>
    rw [hplace] at h
    have hnone : d.content? place = none := by
      cases hc : d.content? place with
      | none => rfl
      | some y => simp [bind, Except.bind, hc, throw, throwThe, MonadExceptOf.throw] at h
    obtain rfl : d.put place .directory = e := by
      simpa [bind, Except.bind, hnone, pure, Except.pure] using h
    intro q
    by_cases hq : q = place
    · subst hq
      have hgiven : isGiven q = false := isGiven_eq_false (d := d) (by simp [hnone])
      simp [file?, content?_put_self hgiven, hnone]
    · exact file?_put_of_ne hq

theorem sameFiles_ensureDirectory (d : Disk) (p : FilePath) :
    SameFiles d (d.ensureDirectory p).2 := by
  unfold ensureDirectory
  cases h : d.makeDirectory p with
  | ok made => exact sameFiles_makeDirectory h
  | error e => exact .refl d

theorem sameFiles_makeDirectoriesAt (d : Disk) (absolute : Bool) (names : List String) :
    SameFiles d (d.makeDirectoriesAt absolute names).2 := by
  induction names with
  | nil => exact d.sameFiles_ensureDirectory _
  | cons name outer ih =>
    unfold makeDirectoriesAt
    dsimp only
    split
    · -- The directories around it come first; then it is tried again.
      split
      · rename_i made heq
        rw [heq] at ih
        exact ih.trans (made.sameFiles_ensureDirectory _)
      · exact ih
    · exact d.sameFiles_ensureDirectory _

/-- Making directories leaves all files as they are, also when it fails. -/
theorem sameFiles_makeDirectories (d : Disk) (p : FilePath) : SameFiles d (d.makeDirectories p).2 :=
  d.sameFiles_makeDirectoriesAt _ _

/-! ## Writing -/

theorem write_eq_ok : d.write p bytes = .ok e ↔ ∃ place, d.placeOf p = .ok place ∧
    d.content? place ≠ some .directory ∧ e = d.put place (.file bytes) := by
  unfold write
  cases hplace : d.placeOf p with
  | error err => simp [bind, Except.bind]
  | ok place =>
    simp only [bind, Except.bind, Except.ok.injEq, exists_eq_left']
    cases hc : d.content? place with
    | none => simp [pure, Except.pure, eq_comm]
    | some y => cases y <;> simp [pure, Except.pure, throw, throwThe, MonadExceptOf.throw, eq_comm]

/-- A file that has been written can be written again, which leaves nothing of the first time. -/
theorem write_of_write (h : d.write p bytes = .ok e) (again : List UInt8) :
    ∃ f, e.write p again = .ok f ∧ Overwritten d p again f := by
  obtain ⟨place, hplace, hc, rfl⟩ := write_eq_ok.mp h
  have hgiven := isGiven_eq_false hc
  have hc' : (d.put place (.file bytes)).content? place ≠ some .directory := by
    simp [content?_put_self hgiven]
  have hwrite : (d.put place (.file bytes)).write p again = .ok _ :=
    write_eq_ok.mpr ⟨place, follow_put hc hplace, hc', rfl⟩
  refine ⟨_, hwrite, place, follow_put hc' (follow_put hc hplace), ?_, fun q hq => ?_⟩
  · simp [file?, content?_put_self hgiven]
  · rw [file?_put_of_ne hq, file?_put_of_ne hq]

theorem lookup_of_write (h : d.write p bytes = .ok e) : e.lookup p = some (.file bytes) := by
  obtain ⟨place, hplace, hc, rfl⟩ := write_eq_ok.mp h
  have hafter : (d.put place (.file bytes)).placeOf p = .ok place := follow_put hc hplace
  rw [lookup, hafter]
  exact content?_put_self (isGiven_eq_false hc)

/-! ## Disks with another content of one file -/

/-- Two disks have files at a place, and the same at all other places. -/
structure SameBesides (place : List String) (d e : Disk) : Prop where
  left : ∃ bytes, d.content? place = some (.file bytes)
  right : ∃ bytes, e.content? place = some (.file bytes)
  others : ∀ q ≠ place, d.content? q = e.content? q

/-- Two changes of disks end alike, and the disks are then the same but for the file at a place. -/
structure SameChange (place : List String) (x y : Except FileError Unit × Disk) : Prop where
  result : x.1 = y.1
  disk : SameBesides place x.2 y.2

/-- Two disks that are made are the same but for the file at a place, or none is made for one
reason. -/
inductive SameMade (place : List String) : Except FileError Disk → Except FileError Disk → Prop
  | error (e : FileError) : SameMade place (.error e) (.error e)
  | ok {d e : Disk} : SameBesides place d e → SameMade place (.ok d) (.ok e)

namespace SameBesides

theorem content (h : SameBesides place d e) (q : List String) :
    d.content? q = e.content? q ∨
      ∃ bytes bytes', d.content? q = some (.file bytes) ∧ e.content? q = some (.file bytes') := by
  by_cases hq : q = place
  · obtain ⟨bytes, hleft⟩ := h.left
    obtain ⟨bytes', hright⟩ := h.right
    exact .inr ⟨bytes, bytes', hq ▸ hleft, hq ▸ hright⟩
  · exact .inl (h.others q hq)

/-! ### Paths lead to the same places -/

theorem follow_eq (h : SameBesides place d e) (path : String) (start names : List String) :
    d.follow path start names = e.follow path start names := by
  induction names generalizing start with
  | nil => rfl
  | cons name names ih =>
    rw [follow, follow, ih, ih]
    obtain hsame | ⟨bytes, bytes', hd, he⟩ := h.content start
    · rw [hsame]
    · rw [hd, he]

theorem placeOf_eq (h : SameBesides place d e) (p : FilePath) : d.placeOf p = e.placeOf p :=
  h.follow_eq _ _ _

theorem lookup (h : SameBesides place d e) (p : FilePath) :
    d.lookup p = e.lookup p ∨
      ∃ bytes bytes', d.lookup p = some (.file bytes) ∧ e.lookup p = some (.file bytes') := by
  unfold Disk.lookup
  rw [h.placeOf_eq]
  cases e.placeOf p with
  | error err => exact .inl rfl
  | ok q => exact h.content q

theorem hasText_eq (h : SameBesides place d e) (s : String) : d.hasText s = e.hasText s := by
  unfold hasText
  dsimp only
  obtain hsame | ⟨bytes, bytes', hd, he⟩ := h.lookup (.ofText s)
  · rw [hsame]
  · rw [hd, he]

theorem hasDirectory_eq (h : SameBesides place d e) (p : FilePath) :
    d.hasDirectory p = e.hasDirectory p := by
  unfold hasDirectory
  obtain hsame | ⟨bytes, bytes', hd, he⟩ := h.lookup p
  · rw [hsame]
  · rw [hd, he]
    simp

/-! ### Changes -/

/-- The same is put at the same place; a directory does not take the place of the file. -/
theorem put (h : SameBesides place d e) (hx : q = place → ∃ bytes, x = .file bytes) :
    SameBesides place (d.put q x) (e.put q x) := by
  have hput {d : Disk} (hfile : ∃ bytes, d.content? place = some (.file bytes)) :
      ∃ bytes, (d.put q x).content? place = some (.file bytes) := by
    obtain ⟨bytes, hbytes⟩ := hfile
    by_cases hq : q = place
    · subst hq
      obtain ⟨bytes', rfl⟩ := hx rfl
      exact ⟨bytes', content?_put_self (isGiven_eq_false (d := d) (by simp [hbytes]))⟩
    · exact ⟨bytes, (content?_put_of_ne (Ne.symm hq)).trans hbytes⟩
  refine ⟨hput h.left, hput h.right, fun q' hq' => ?_⟩
  by_cases heq : q' = q
  · subst heq
    cases hgiven : isGiven q' with
    | true => simp [content?, hgiven]
    | false => rw [content?_put_self hgiven, content?_put_self hgiven]
  · rw [content?_put_of_ne heq, content?_put_of_ne heq, h.others q' hq']

theorem makeDirectory (h : SameBesides place d e) (p : FilePath) :
    SameMade place (d.makeDirectory p) (e.makeDirectory p) := by
  unfold Disk.makeDirectory
  rw [h.placeOf_eq]
  cases e.placeOf p with
  | error err => exact .error err
  | ok q =>
    dsimp only [bind, Except.bind]
    obtain hsame | ⟨bytes, bytes', hd, he⟩ := h.content q
    · rw [hsame]
      cases hc : e.content? q with
      | some y => exact .error _
      | none =>
        refine .ok (h.put fun hq => ?_)
        obtain ⟨bytes, hbytes⟩ := h.right
        rw [← hq, hc] at hbytes
        cases hbytes
    · rw [hd, he]
      exact .error _

theorem ensureDirectory (h : SameBesides place d e) (p : FilePath) :
    SameChange place (d.ensureDirectory p) (e.ensureDirectory p) := by
  have hmade := h.makeDirectory p
  unfold Disk.ensureDirectory
  rw [h.hasDirectory_eq]
  generalize d.makeDirectory p = x, e.makeDirectory p = y at hmade
  cases hmade with
  | error err => exact ⟨rfl, h⟩
  | ok hdisks => exact ⟨rfl, hdisks⟩

theorem makeDirectoriesAt (h : SameBesides place d e) (absolute : Bool) (names : List String) :
    SameChange place (d.makeDirectoriesAt absolute names) (e.makeDirectoriesAt absolute names) := by
  induction names with
  | nil => exact h.ensureDirectory _
  | cons name outer ih =>
    have hmade := h.makeDirectory ⟨absolute, (name :: outer).reverse⟩
    have hensured := h.ensureDirectory ⟨absolute, (name :: outer).reverse⟩
    unfold Disk.makeDirectoriesAt
    dsimp only
    generalize d.makeDirectory _ = x, e.makeDirectory _ = y at hmade
    cases hmade with
    | ok _ => exact hensured
    | error err =>
      cases err with
      | missing path =>
        -- The directories around it come first; then it is tried again.
        generalize d.makeDirectoriesAt absolute outer = x,
          e.makeDirectoriesAt absolute outer = y at ih ⊢
        obtain ⟨result, made⟩ := x
        obtain ⟨result', made'⟩ := y
        obtain ⟨hresult, hdisks⟩ := ih
        obtain rfl : result = result' := hresult
        cases result with
        | ok _ => exact hdisks.ensureDirectory _
        | error err => exact ⟨rfl, hdisks⟩
      | exists_ path | notDirectory path | isDirectory path => exact hensured

theorem makeDirectories (h : SameBesides place d e) (p : FilePath) :
    SameChange place (d.makeDirectories p) (e.makeDirectories p) := h.makeDirectoriesAt _ _

theorem write (h : SameBesides place d e) (p : FilePath) (bytes : List UInt8) :
    SameMade place (d.write p bytes) (e.write p bytes) := by
  unfold Disk.write
  rw [h.placeOf_eq]
  cases e.placeOf p with
  | error err => exact .error err
  | ok q =>
    have hput : SameMade place (.ok (d.put q (.file bytes))) (.ok (e.put q (.file bytes))) :=
      .ok (h.put fun _ => ⟨bytes, rfl⟩)
    dsimp only [bind, Except.bind]
    obtain hsame | ⟨bytes', bytes'', hd, he⟩ := h.content q
    · rw [hsame]
      rcases e.content? q with _ | _ | _
      · exact hput
      · exact hput
      · exact .error _
    · rw [hd, he]
      exact hput

end SameBesides

end ApiDoc.Disk
