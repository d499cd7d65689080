import ApiDoc.CommandLine.Run
import ApiDoc.Proofs.Files
import ApiDoc.Proofs.Json.Form

/-!
# What a run leaves behind

A run either halts or comes to its end. Building a document and checking it only print
(`Console.Prints`), so a run that halts there has not touched the disk. What can still go wrong when
the document is saved comes before the output file is written: a directory cannot be made, the
document has no text, or the path cannot be written to. Directories may have been made by then, and
they are no files. The one thing that is found too late is a text with codes that are no characters,
which is why the documents here are whole (`Value.isWhole`).

`Console.Ends` says both things of a run at once: files stay as they are if it halts, and what holds
if it comes to its end.

Printing cannot fail in this model, and neither can writing to a file that has been opened. So a
message that cannot be printed once the file is there, or a disk that is full in the middle of it,
is outside of what is said here.

Main statement: `files_of_run`.
-/

namespace ApiDoc.CommandLine

open Disk (SameFiles Overwritten)

variable {α β : Type}

/-! ## Runs -/

namespace Console

/-- What a run gives from how far it has come: a result, and how far it has come then. -/
def exec (x : Console α) (p : Progress) : Except Halt α × Progress := x.run.run p

theorem exec_bind (x : Console α) (f : α → Console β) (p : Progress) :
    exec (x >>= f) p = match exec x p with
      | (.ok a, q) => exec (f a) q
      | (.error h, q) => (.error h, q) := by
  unfold exec ExceptT.run StateT.run
  simp only [bind, ExceptT.bind, ExceptT.mk, StateT.bind, ExceptT.bindCont]
  cases x p with
  | mk r q => cases r <;> rfl

/-- A run leaves the disk alone, and the results `R` are those that it can come to. -/
def Prints (x : Console α) (p : Progress) (R : α → Prop) : Prop :=
  (exec x p).2.disk = p.disk ∧ ∀ a, (exec x p).1 = .ok a ↔ R a

/-- A run that halts leaves all files as they are; if it comes to its end, `P` holds of its result
and the disk then. -/
def Ends (x : Console α) (p : Progress) (P : α → Disk → Prop) : Prop :=
  match exec x p with
  | (.ok a, q) => P a q.disk
  | (.error _, q) => SameFiles p.disk q.disk

variable {x : Console α} {f : α → Console β} {p : Progress} {R : α → Prop} {S : β → Prop}
  {P : α → Disk → Prop} {Q : β → Disk → Prop}

/-! ### Runs that print -/

theorem prints_pure (a : α) : Prints (pure a) p fun b => a = b :=
  ⟨rfl, fun _ => ⟨fun h => Except.ok.inj h, fun h => congrArg Except.ok h⟩⟩

theorem prints_say (text : String) : Prints (say text) p fun _ => True :=
  ⟨rfl, fun _ => iff_of_true rfl trivial⟩

theorem prints_throw (h : Halt) : Prints (throw h : Console α) p fun _ => False :=
  ⟨rfl, fun _ => iff_false_intro nofun⟩

theorem Prints.bind {S : α → β → Prop} (h : Prints x p R)
    (hf : ∀ a q, q.disk = p.disk → R a → Prints (f a) q (S a)) :
    Prints (x >>= f) p fun b => ∃ a, R a ∧ S a b := by
  obtain ⟨hdisk, hresult⟩ := h
  unfold Prints
  rw [exec_bind]
  rcases hx : exec x p with ⟨halt | a, q⟩
  · simp only [hx] at hdisk hresult
    refine ⟨hdisk, fun b => iff_of_false nofun ?_⟩
    rintro ⟨a, hR, -⟩
    cases (hresult a).mpr hR
  · simp only [hx, Except.ok.injEq] at hdisk hresult
    obtain ⟨hdisk', hresult'⟩ := hf a q hdisk ((hresult a).mp rfl)
    refine ⟨hdisk'.trans hdisk, fun b => (hresult' b).trans ?_⟩
    refine ⟨fun hS => ⟨a, (hresult a).mp rfl, hS⟩, ?_⟩
    rintro ⟨a', hR, hS⟩
    obtain rfl := (hresult a').mpr hR
    exact hS

theorem Prints.iff {R' : α → Prop} (h : Prints x p R) (hR : ∀ a, R a ↔ R' a) : Prints x p R' :=
  ⟨h.1, fun a => (h.2 a).trans (hR a)⟩

/-- Something is printed before the rest of a run. -/
theorem Prints.after_say {y : Console α} (text : String) (h : ∀ q, q.disk = p.disk → Prints y q R) :
    Prints (do say text; y) p R :=
  ((prints_say text).bind fun _ q hq _ => h q hq).iff fun _ => by simp

theorem prints_log (verbose : Bool) (notices : List Notice) :
    Prints (log verbose notices) p fun _ => True := by
  unfold log
  induction notices generalizing p with
  | nil => exact (prints_pure ()).iff fun _ => by simp
  | cons n ns ih =>
    have hline : Prints (if (verbose || n.isWarning) = true then sayLine n.line else pure ()) p
        fun _ => True := by
      split
      · exact prints_say _
      · exact (prints_pure ()).iff fun _ => by simp
    exact (hline.bind fun _ q _ _ => ih).iff fun _ => by simp

theorem prints_fail (e : Failure) : Prints (fail e : Console α) p fun _ => False := by
  unfold fail
  split
  · refine .after_say _ fun q _ => ?_
    split
    · exact ((prints_pure ()).bind fun _ _ _ _ => prints_throw _).iff fun _ => by simp
    · exact .after_say _ fun _ _ => prints_throw _
  · exact prints_throw _

/-! ### Runs that change the disk -/

theorem Prints.ends (h : Prints x p R) : Ends x p fun a d => R a ∧ d = p.disk := by
  obtain ⟨hdisk, hresult⟩ := h
  unfold Ends
  rcases hx : exec x p with ⟨halt | a, q⟩
  · simp only [hx] at hdisk
    exact hdisk ▸ .refl _
  · simp only [hx, Except.ok.injEq] at hdisk hresult
    exact ⟨(hresult a).mp rfl, hdisk⟩

theorem Ends.bind (h : Ends x p P) (hsame : ∀ a d, P a d → SameFiles p.disk d)
    (hf : ∀ a q, P a q.disk → Ends (f a) q Q) : Ends (x >>= f) p Q := by
  unfold Ends at h ⊢
  rw [exec_bind]
  rcases hx : exec x p with ⟨halt | a, q⟩
  · simpa only [hx] using h
  · simp only [hx] at h
    have hq := hf a q h
    unfold Ends at hq
    dsimp only
    rcases hfx : exec (f a) q with ⟨halt | b, q'⟩
    · simp only [hfx] at hq
      exact (hsame a q.disk h).trans hq
    · simpa only [hfx] using hq

theorem Ends.mono {P' : α → Disk → Prop} (h : Ends x p P) (hP : ∀ a d, P a d → P' a d) :
    Ends x p P' := by
  unfold Ends at h ⊢
  split at h
  · exact hP _ _ h
  · exact h

/-- What is printed at the end of a run cannot make it halt. -/
theorem Ends.sayLine {x : Console Unit} {P : Unit → Disk → Prop} (h : Ends x p P) (line : String) :
    Ends (do x; sayLine line) p P := by
  unfold Ends at h ⊢
  rw [exec_bind]
  rcases hx : exec x p with ⟨halt | a, q⟩
  · simpa only [hx] using h
  · simp only [hx] at h
    exact h

theorem ends_throw (h : Halt) : Ends (throw h : Console α) p P := SameFiles.refl p.disk

theorem exec_change (change : Disk → Except FileError Unit × Disk) (p : Progress) :
    exec (Console.change change) p =
      ((change p.disk).1.mapError fun e => .escaped (.failure (.file e)),
        { p with disk := (change p.disk).2 }) := by
  have hget : exec (get : Console Progress) p = (.ok p, p) := rfl
  have hmodify (f : Progress → Progress) : exec (modify f : Console Unit) p = (.ok (), f p) := rfl
  unfold Console.change
  rw [exec_bind, hget]
  dsimp only
  rw [exec_bind, hmodify]
  cases (change p.disk).1 <;> rfl

end Console

open Console

/-! ## Requests -/

namespace Request

variable {check : Value → OpenApi.Verdict} {r : Request} {p : Progress} {v : Value}

/-- The document that a request comes to: that of the routes of all routers of the route file, in
order, with the configuration of the file. -/
def document? (r : Request) (disk : Disk) : Option Document :=
  match RouteFile.load disk r.routes with
  | .error _ => none
  | .ok file => ((file.api r.mount).generate file.config r.options).1.toOption

/-- The value that a request comes to is that of its document, which is accepted if it is
checked. -/
def Makes (check : Value → OpenApi.Verdict) (r : Request) (disk : Disk) (v : Value) : Prop :=
  ∃ document, r.document? disk = some document ∧ document.toValue = v ∧
    (r.check = true → check v = .valid)

/-- The output file of a request can be written. -/
def CanWrite (r : Request) (disk : Disk) : Prop :=
  (disk.makeDirectories r.output.parent).1 = .ok () ∧
    ∃ written, (disk.makeDirectories r.output.parent).2.write r.output [] = .ok written

/-! ### Up to the document -/

theorem prints_build (r : Request) (p : Progress) :
    Prints r.build p fun document => r.document? p.disk = some document := by
  unfold build
  refine .after_say _ fun q hq => ?_
  show Prints (match RouteFile.load q.disk r.routes with | .error f => _ | .ok file => _) q _
  rw [hq]
  unfold document?
  cases RouteFile.load p.disk r.routes with
  | error f => exact (prints_fail f).iff fun _ => by simp
  | ok file =>
    dsimp only
    generalize (file.api r.mount).generate file.config r.options = generated
    obtain ⟨result, notices⟩ := generated
    dsimp only
    -- What is logged on the way changes neither the disk nor the document.
    refine ((prints_log r.verbose (file.notices r.mount)).bind fun _ q _ _ =>
      .after_say _ fun q _ => (prints_log r.verbose notices).bind fun _ q _ _ => ?_).iff
        (R := fun document => ∃ _ : Unit, True ∧ ∃ _ : Unit, True ∧ result.toOption = some document)
        fun document => by simp
    cases result with
    | error e => exact (prints_fail _).iff fun _ => by simp [Except.toOption]
    | ok document => exact (prints_pure document).iff fun _ => by simp [Except.toOption]

theorem prints_checkDocument (check : Value → OpenApi.Verdict) (v : Value) (p : Progress) :
    Prints (checkDocument check v) p fun _ => check v = .valid := by
  unfold checkDocument
  cases check v with
  | valid => exact (prints_say _).iff fun _ => by simp
  | invalid => exact .after_say _ fun _ _ => (prints_throw _).iff fun _ => by simp
  | stopped o => exact (prints_throw _).iff fun _ => by simp

theorem prints_checked (check : Value → OpenApi.Verdict) (r : Request) (p : Progress) :
    Prints (r.checked check) p (r.Makes check p.disk) := by
  unfold checked Makes
  refine (prints_build r p).bind fun document q _ _ => ?_
  dsimp only
  cases r.check with
  | false => exact (prints_pure _).iff fun v => by simp
  | true =>
    refine ((prints_checkDocument check document.toValue q).bind fun _ q _ _ => prints_pure _).iff
      fun v => ?_
    constructor
    · rintro ⟨-, hvalid, rfl⟩
      exact ⟨rfl, fun _ => hvalid⟩
    · rintro ⟨rfl, hvalid⟩
      exact ⟨(), hvalid rfl, rfl⟩

/-! ### Saving -/

/-- The text of a whole value has no flaw. -/
theorem flaw_dump {draft : Json.Draft} (hv : v.isWhole) (h : r.dump v = .ok draft) :
    draft.flaw = none := by
  unfold dump at h
  split at h
  · exact Json.flaw_indented hv h
  · split at h
    · cases h
    · cases h
      rfl

theorem ends_write (path : FilePath) (bytes : List UInt8) :
    Ends (Console.write path bytes) p fun _ d => p.disk.write path bytes = .ok d := by
  unfold Console.write Ends
  rw [exec_change]
  cases h : p.disk.write path bytes with
  | ok written => rfl
  | error e => exact .refl _

/-- The output file is opened, which empties it, and then its text is written. Opening can fail;
what has been opened can be written. -/
theorem ends_overwrite (path : FilePath) (bytes : List UInt8) :
    Ends (do Console.write path []; Console.write path bytes) p fun _ d =>
      Overwritten p.disk path bytes d := by
  have hopen := ends_write (p := p) path []
  unfold Ends at hopen ⊢
  rw [exec_bind]
  rcases hx : exec (Console.write path []) p with ⟨halt | _, q⟩
  · simpa only [hx] using hopen
  · simp only [hx] at hopen ⊢
    obtain ⟨d, hwrite, hd⟩ := Disk.write_of_write hopen bytes
    unfold Console.write
    rw [exec_change, hwrite]
    exact hd

/-- A whole value is saved as its text in the output file, or nothing is. -/
theorem ends_save (hv : v.isWhole) : Ends (r.save v) p fun _ d =>
    ∃ text, r.dump v = .ok { text } ∧ Overwritten p.disk r.output text.toUTF8.toList d := by
  unfold save
  have hmade : Ends (Console.change fun d => d.makeDirectories r.output.parent) p
      fun _ d => SameFiles p.disk d := by
    unfold Ends
    rw [exec_change]
    have hsame := p.disk.sameFiles_makeDirectories r.output.parent
    cases h : (p.disk.makeDirectories r.output.parent).1 <;> exact hsame
  refine hmade.bind (fun _ _ h => h) fun _ q hq => ?_
  cases hdump : r.dump v with
  | error e => exact ends_throw _
  | ok draft =>
    obtain ⟨text, flaw⟩ := draft
    obtain rfl : flaw = none := flaw_dump hv hdump
    exact (ends_overwrite r.output text.toUTF8.toList).mono fun _ d hd =>
      ⟨text, rfl, hq.overwritten hd⟩

/-- What a request that comes to its end has done: its document was made, and accepted if it was to
be checked, and the text of the document is in the output file, which is the only file that is new
or other than before. -/
def Done (check : Value → OpenApi.Verdict) (r : Request) (before after : Disk) : Prop :=
  ∃ v text, r.Makes check before v ∧ r.dump v = .ok { text } ∧
    Overwritten before r.output text.toUTF8.toList after

theorem ends_perform (hwhole : ∀ document, r.document? p.disk = some document →
    document.toValue.isWhole) :
    Ends (r.perform check) p fun _ d => r.Done check p.disk d := by
  unfold perform
  refine (prints_checked check r p).ends.bind (fun v d h => h.2 ▸ .refl _) fun v q hq => ?_
  obtain ⟨hmakes, hdisk⟩ := hq
  have hv : v.isWhole := by
    obtain ⟨document, hdocument, rfl, -⟩ := hmakes
    exact hwhole document hdocument
  refine ((ends_save hv).sayLine _).mono fun _ d h => ?_
  obtain ⟨text, hdump, hwritten⟩ := h
  exact ⟨v, text, hmakes, hdump, hdisk ▸ hwritten⟩

end Request

/-! ## Command lines -/

/-- The outcome of a run, by its end. -/
theorem Outcome.of_ends {disk : Disk} {x : Console Unit} {P : Disk → Prop}
    (h : Ends x { disk } fun _ d => P d) :
    ((Outcome.ofConsole disk x).exitCode ≠ 0 → SameFiles disk (Outcome.ofConsole disk x).disk) ∧
      ((Outcome.ofConsole disk x).exitCode = 0 → P (Outcome.ofConsole disk x).disk) := by
  unfold Outcome.ofConsole
  unfold Ends exec at h
  rcases hx : x.run.run { disk } with ⟨halt | _, q⟩
  · simp only [hx] at h
    exact ⟨fun _ => h, fun h0 => absurd h0 (Nat.ne_of_gt halt.exitCode_pos)⟩
  · simp only [hx] at h
    exact ⟨fun h0 => absurd rfl h0, fun _ => h⟩

/-- What a run that succeeds has done: it has done what a request asks for, or shown a page. -/
def Done (check : Value → OpenApi.Verdict) (words : List String) (before after : Disk) : Prop :=
  match readCall before words with
  | .ok (.generate r) => r.Done check before after
  | _ => SameFiles before after

theorem ends_perform {check : Value → OpenApi.Verdict} {disk : Disk} {words : List String}
    (hwhole : ∀ r document, readCall disk words = .ok (.generate r) →
      r.document? disk = some document → document.toValue.isWhole) :
    Ends (perform check disk words) { disk } fun _ d => Done check words disk d := by
  unfold perform Done
  cases hcall : readCall disk words with
  | error complaint =>
    have hhalt :
        Prints (do say (complaint.2.text complaint.1); throw .misused : Console Unit) { disk }
      fun _ => False := .after_say _ fun _ _ => prints_throw _
    exact hhalt.ends.mono fun _ _ h => h.1.elim
  | ok call =>
    cases call with
    | help page => exact (prints_say page.text).ends.mono fun _ _ h => h.2 ▸ .refl disk
    | generate r => exact Request.ends_perform fun document h => hwhole r document hcall h

/-- **Runs are atomic.** A run that does not succeed creates and changes no file, whatever made it
fail. A run that succeeds in generating a document has written the text of the document to the
output file, and has created or changed no other file. This holds for every checker of documents,
and for documents whose texts are of characters. -/
theorem files_of_run (check : Value → OpenApi.Verdict) (disk : Disk) (words : List String)
    (hwhole : ∀ r document, readCall disk words = .ok (.generate r) →
      r.document? disk = some document → document.toValue.isWhole) :
    ((run disk words check).exitCode ≠ 0 → SameFiles disk (run disk words check).disk) ∧
      ((run disk words check).exitCode = 0 →
        Done check words disk (run disk words check).disk) := by
  unfold run
  refine Outcome.of_ends ?_
  split
  · have hhalt : Prints (do say mainPage.text; throw .misused : Console Unit) { disk }
      fun _ => False := .after_say _ fun _ _ => prints_throw _
    exact hhalt.ends.mono fun _ _ h => h.1.elim
  · exact ends_perform hwhole

namespace Sample

/-- A disk with a route file, whose document has no title. -/
def disk : Disk :=
  let text := "document: \x7binfo: \x7b\x7d, basePath: /\x7d\n"
    ++ "routers: [\x7broutes: [\x7bmethod: get, path: /a\x7d]\x7d]\n"
  { entries := [(["r.yaml"], .file (text.toList.map fun c => UInt8.ofNat c.toNat))] }

/-- Words that ask for the document, in a directory that is not there. -/
def words (further : List String) : List String :=
  ["generate", "r.yaml", "-o", "out/api.json"] ++ further

theorem isWhole_of_words (further : List String) (h : (match readCall disk (words further) with
      | .ok (.generate r) => (r.document? disk).all (·.toValue.isWhole)
      | _ => true) = true) :
    ∀ r document, readCall disk (words further) = .ok (.generate r) →
      r.document? disk = some document → document.toValue.isWhole := by
  intro r document hcall hdocument
  simpa [hcall, hdocument] using h

end Sample

/-- The document is written, but not if it is to be checked. -/
theorem files_of_run_sample :
    ((∀ r document, readCall Sample.disk (Sample.words []) = .ok (.generate r) →
        r.document? Sample.disk = some document → document.toValue.isWhole) ∧
      (run Sample.disk (Sample.words [])).exitCode = 0 ∧
      Done OpenApi.check (Sample.words []) Sample.disk (run Sample.disk (Sample.words [])).disk) ∧
    (∀ r document, readCall Sample.disk (Sample.words ["--check"]) = .ok (.generate r) →
        r.document? Sample.disk = some document → document.toValue.isWhole) ∧
      (run Sample.disk (Sample.words ["--check"])).exitCode ≠ 0 ∧
      SameFiles Sample.disk (run Sample.disk (Sample.words ["--check"])).disk := by
  have hwritten := Sample.isWhole_of_words [] (by decide +kernel)
  have hchecked := Sample.isWhole_of_words ["--check"] (by decide +kernel)
  have hzero : (run Sample.disk (Sample.words [])).exitCode = 0 := by decide +kernel
  have hone : (run Sample.disk (Sample.words ["--check"])).exitCode ≠ 0 := by decide +kernel
  exact ⟨⟨hwritten, hzero, (files_of_run OpenApi.check _ _ hwritten).2 hzero⟩,
    hchecked, hone, (files_of_run OpenApi.check _ _ hchecked).1 hone⟩

end ApiDoc.CommandLine
