import ApiDoc.Document.Build

/-!
# Runs of work

Work takes a session to a result and a later session. A proof about work takes a run of it apart
into the runs of its parts (`Work.run_bind`), and goes through a loop with what holds after every
round (`Work.run_foldlM`).

**Steady work** does the same from every session: it has one result, and one list of `Effect`s, none
of which is a warning. All work on schemas and operations is steady, since it only adds to the
session and never looks at it. So what it makes does not depend on what was done before it
(`Work.Steady.result_eq`), it warns of nothing (`Work.Steady.warnings_eq`), and what is recorded
stays recorded (`Work.Steady.pointers_subset`).
-/

namespace ApiDoc

/-- One thing that work does to its session. -/
inductive Effect where
  | record (ref : String)
  | notify (n : Notice)

/-- Whether an effect is anything but a warning. -/
def Effect.isQuiet : Effect → Bool
  | record _ => true
  | notify n => !n.isWarning

namespace Session

/-- The warnings reported so far, in order. -/
def warnings (s : Session) : List Notice := s.notices.filter (·.isWarning)

/-- The session after an effect. -/
def apply (s : Session) : Effect → Session
  | .record ref =>
    let notices :=
      if s.registry.isNew (pointerTo ref) then s.notices ++ [.recorded (pointerTo ref)]
      else s.notices
    { registry := s.registry.record ref, notices }
  | .notify n => { s with notices := s.notices ++ [n] }

/-- The session after effects. -/
def after (s : Session) (es : List Effect) : Session := es.foldl apply s

theorem after_append (s : Session) (es fs : List Effect) :
    s.after (es ++ fs) = (s.after es).after fs := List.foldl_append

end Session

/-! ## Recording -/

namespace Registry

theorem mem_record {r : Registry} {ref p : String} :
    p ∈ (r.record ref).pointers ↔ p ∈ r.pointers ∨ p = pointerTo ref := by
  unfold record
  split
  · rename_i h
    exact ⟨.inl, fun hp => hp.elim id (· ▸ h)⟩
  · simp

end Registry

/-- A pointer is to a place within the document. -/
def IsLocal (p : String) : Prop := p.toList.head? = some '#'

theorem isLocal_pointerTo (ref : String) : IsLocal (pointerTo ref) := by
  unfold IsLocal pointerTo
  split
  · rename_i h
    obtain ⟨rest, hrest⟩ := List.isPrefixOf_iff_prefix.mp h
    rw [← hrest]
    rfl
  · have hhash : "#/definitions/".toList = '#' :: "/definitions/".toList := by decide
    rw [String.toList_append, hhash]
    rfl

namespace Session

/-- Only pointers within the document are recorded. -/
def Local (s : Session) : Prop := ∀ p ∈ s.registry.pointers, IsLocal p

theorem Local.apply {s : Session} (h : s.Local) (e : Effect) : (s.apply e).Local := by
  cases e with
  | record ref =>
    intro p hp
    rcases Registry.mem_record.mp hp with hp | rfl
    · exact h p hp
    · exact isLocal_pointerTo ref
  | notify n => exact h

theorem Local.after {s : Session} (h : s.Local) (es : List Effect) : (s.after es).Local := by
  induction es generalizing s with
  | nil => exact h
  | cons e es ih => exact ih (h.apply e)

theorem pointers_subset_apply (s : Session) (e : Effect) :
    s.registry.pointers ⊆ (s.apply e).registry.pointers := by
  cases e with
  | record ref => exact fun p hp => Registry.mem_record.mpr (.inl hp)
  | notify n => exact fun p hp => hp

theorem pointers_subset_after (s : Session) (es : List Effect) :
    s.registry.pointers ⊆ (s.after es).registry.pointers := by
  induction es generalizing s with
  | nil => exact fun p hp => hp
  | cons e es ih => exact fun p hp => ih (s.apply e) (s.pointers_subset_apply e hp)

theorem warnings_apply {e : Effect} (he : e.isQuiet) (s : Session) :
    (s.apply e).warnings = s.warnings := by
  cases e with
  | record ref =>
    simp only [apply, warnings]
    split <;> simp [Notice.isWarning]
  | notify n =>
    have : n.isWarning = false := by simpa [Effect.isQuiet] using he
    simp [apply, warnings, this]

theorem warnings_after {es : List Effect} (h : ∀ e ∈ es, e.isQuiet) (s : Session) :
    (s.after es).warnings = s.warnings := by
  induction es generalizing s with
  | nil => rfl
  | cons e es ih =>
    have he := h e List.mem_cons_self
    have hes := fun d hd => h d (List.mem_cons_of_mem e hd)
    exact (ih hes (s.apply e)).trans (warnings_apply he s)

end Session

namespace Work

variable {α β : Type} {s s' : Session}

/-! ## Runs -/

/-- What work gives from a session: a result and a later session. -/
def exec (x : Work α) (s : Session) : Except Error α × Session := x.run.run s

theorem exec_pure (a : α) (s : Session) : exec (pure a) s = (.ok a, s) := rfl

theorem exec_throw (e : Error) (s : Session) : exec (throw e : Work α) s = (.error e, s) := rfl

theorem exec_bind (x : Work α) (f : α → Work β) (s : Session) :
    exec (x >>= f) s = match exec x s with
      | (.ok a, t) => exec (f a) t
      | (.error e, t) => (.error e, t) := by
  unfold exec ExceptT.run StateT.run
  simp only [bind, ExceptT.bind, ExceptT.mk, StateT.bind, ExceptT.bindCont]
  cases x s with
  | mk r t => cases r <;> rfl

/-- Work that starts in a session ends well, with a value and in a later session. -/
def Run (x : Work α) (s : Session) (a : α) (s' : Session) : Prop := exec x s = (.ok a, s')

theorem run_pure {a b : α} : Run (pure a) s b s' ↔ b = a ∧ s' = s := by
  simp only [Run, exec_pure, Prod.mk.injEq, Except.ok.injEq, eq_comm]

theorem not_run_throw {e : Error} {a : α} : ¬ Run (throw e) s a s' := by
  simp [Run, exec_throw]

theorem run_bind {x : Work α} {f : α → Work β} {b : β} :
    Run (x >>= f) s b s' ↔ ∃ a t, Run x s a t ∧ Run (f a) t b s' := by
  unfold Run
  rw [exec_bind]
  rcases exec x s with ⟨_ | a, t⟩
  · simp
  · constructor
    · exact fun h => ⟨a, t, rfl, h⟩
    · rintro ⟨a', t', h, h'⟩
      obtain ⟨rfl, rfl⟩ : a = a' ∧ t = t' := by simpa using h
      exact h'

theorem run_map {x : Work α} {f : α → β} {b : β} :
    Run (f <$> x) s b s' ↔ ∃ a, Run x s a s' ∧ b = f a := by
  rw [show f <$> x = x >>= fun a => pure (f a) from rfl, run_bind]
  simp only [run_pure]
  constructor
  · rintro ⟨a, t, h, rfl, rfl⟩
    exact ⟨a, h, rfl⟩
  · rintro ⟨a, h, rfl⟩
    exact ⟨a, s', h, rfl, rfl⟩

/-- **Loops.** What holds before a loop and is kept by every round holds after the loop, of all the
items. -/
theorem run_foldlM {step : β → α → Work β} {xs : List α} {b b' : β}
    (Inv : List α → β → Session → Prop)
    (hstep : ∀ done x c t c' t', Inv done c t → Run (step c x) t c' t' → Inv (done ++ [x]) c' t')
    (h₀ : Inv [] b s) (h : Run (xs.foldlM step b) s b' s') : Inv xs b' s' := by
  suffices ∀ done, Inv done b s → Inv (done ++ xs) b' s' from this [] h₀
  clear h₀
  induction xs generalizing b s with
  | nil =>
    intro done h₀
    obtain ⟨rfl, rfl⟩ := run_pure.mp h
    simpa using h₀
  | cons x xs ih =>
    intro done h₀
    rw [List.foldlM_cons] at h
    obtain ⟨c, t, hx, hxs⟩ := run_bind.mp h
    simpa using ih hxs (done ++ [x]) (hstep done x b s c t h₀ hx)

/-! ## Steady work -/

/-- Work that does the same from every session, and warns of nothing. -/
def Steady (x : Work α) : Prop :=
  ∃ es r, (∀ e ∈ es, e.isQuiet) ∧ ∀ s, exec x s = (r, s.after es)

namespace Steady

theorem pure (a : α) : Steady (pure a) := ⟨[], .ok a, by simp, fun _ => rfl⟩

theorem throw (e : Error) : Steady (throw e : Work α) := ⟨[], .error e, by simp, fun _ => rfl⟩

theorem notify {n : Notice} (h : n.isWarning = false) : Steady (notify n) :=
  ⟨[.notify n], .ok (), by simp [Effect.isQuiet, h], fun _ => rfl⟩

theorem record (ref : String) : Steady (record ref) :=
  ⟨[.record ref], .ok (), by simp [Effect.isQuiet], fun _ => rfl⟩

theorem bind {x : Work α} {f : α → Work β} (hx : Steady x) (hf : ∀ a, Steady (f a)) :
    Steady (x >>= f) := by
  obtain ⟨es, r, hes, hx⟩ := hx
  cases r with
  | error e => exact ⟨es, .error e, hes, fun s => by rw [exec_bind, hx]⟩
  | ok a =>
    obtain ⟨fs, r, hfs, hf⟩ := hf a
    refine ⟨es ++ fs, r, ?_, fun s => ?_⟩
    · simpa only [List.forall_mem_append] using ⟨hes, hfs⟩
    · rw [exec_bind, hx, Session.after_append, ← hf]

theorem map {x : Work α} (f : α → β) (hx : Steady x) : Steady (f <$> x) :=
  hx.bind fun a => .pure (f a)

theorem mapM {f : α → Work β} (hf : ∀ a, Steady (f a)) (xs : List α) : Steady (xs.mapM f) := by
  induction xs with
  | nil => exact .pure []
  | cons x xs ih =>
    rw [List.mapM_cons]
    exact (hf x).bind fun b => ih.bind fun bs => .pure (b :: bs)

theorem foldlM {step : β → α → Work β} (hstep : ∀ b a, Steady (step b a)) (xs : List α) (b : β) :
    Steady (xs.foldlM step b) := by
  induction xs generalizing b with
  | nil => exact .pure b
  | cons x xs ih =>
    rw [List.foldlM_cons]
    exact (hstep b x).bind fun c => ih c

variable {x : Work α}

theorem result_eq (hx : Steady x) (s t : Session) : (exec x s).1 = (exec x t).1 := by
  obtain ⟨es, r, -, hx⟩ := hx
  rw [hx, hx]

theorem warnings_eq (hx : Steady x) (s : Session) : (exec x s).2.warnings = s.warnings := by
  obtain ⟨es, r, hes, hx⟩ := hx
  rw [hx]
  exact Session.warnings_after hes s

theorem pointers_subset (hx : Steady x) (s : Session) :
    s.registry.pointers ⊆ (exec x s).2.registry.pointers := by
  obtain ⟨es, r, -, hx⟩ := hx
  rw [hx]
  exact s.pointers_subset_after es

theorem local_exec (hx : Steady x) (hs : s.Local) : (exec x s).2.Local := by
  obtain ⟨es, r, -, hx⟩ := hx
  rw [hx]
  exact hs.after es

end Steady

namespace Run

variable {x : Work α} {a : α}

theorem result_eq (h : Run x s a s') (hx : Steady x) (t : Session) : (exec x t).1 = .ok a := by
  rw [hx.result_eq t s, h]

theorem warnings_eq (h : Run x s a s') (hx : Steady x) : s'.warnings = s.warnings := by
  have := hx.warnings_eq s
  rwa [h] at this

theorem pointers_subset (h : Run x s a s') (hx : Steady x) :
    s.registry.pointers ⊆ s'.registry.pointers := by
  have := hx.pointers_subset s
  rwa [h] at this

theorem isLocal (h : Run x s a s') (hx : Steady x) (hs : s.Local) : s'.Local := by
  have := hx.local_exec hs
  rwa [h] at this

end Run

/-- What every round of a loop gives of its item, the whole loop gives of all items. -/
theorem map_eq_of_run_mapM {γ : Type} {f : α → Work β} {g : α → γ} {key : β → γ} {xs : List α}
    {ys : List β} (hf : ∀ x t y t', Run (f x) t y t' → key y = g x) (h : Run (xs.mapM f) s ys s') :
    ys.map key = xs.map g := by
  induction xs generalizing s ys with
  | nil =>
    rw [List.mapM_nil] at h
    obtain ⟨rfl, rfl⟩ := run_pure.mp h
    rfl
  | cons x xs ih =>
    rw [List.mapM_cons] at h
    obtain ⟨y, t, hy, hrest⟩ := run_bind.mp h
    obtain ⟨ys, t', hys, hend⟩ := run_bind.mp hrest
    obtain ⟨rfl, rfl⟩ := run_pure.mp hend
    rw [List.map_cons, List.map_cons, hf x s y t hy, ih hys]

/-- A value of a loop that collects them is that of a round, and what the round has recorded is
recorded at the end. -/
theorem run_of_mem_mapM {f : α → Work β} {xs : List α} {ys : List β}
    (h : Run (xs.mapM f) s ys s') (hf : ∀ a, Steady (f a)) {y : β} (hy : y ∈ ys) :
    ∃ x ∈ xs, ∃ t t', Run (f x) t y t' ∧ t'.registry.pointers ⊆ s'.registry.pointers := by
  induction xs generalizing s ys with
  | nil =>
    rw [List.mapM_nil] at h
    obtain ⟨rfl, rfl⟩ := run_pure.mp h
    simp at hy
  | cons x xs ih =>
    rw [List.mapM_cons] at h
    obtain ⟨z, t, hz, hrest⟩ := run_bind.mp h
    obtain ⟨zs, t', hzs, hend⟩ := run_bind.mp hrest
    obtain ⟨rfl, rfl⟩ := run_pure.mp hend
    rcases List.mem_cons.mp hy with rfl | hy
    · exact ⟨x, List.mem_cons_self, s, t, hz, hzs.pointers_subset (.mapM hf xs)⟩
    · obtain ⟨x', hx', hrun⟩ := ih hzs hy
      exact ⟨x', List.mem_cons_of_mem x hx', hrun⟩

end Work

end ApiDoc
