import ApiDoc.Proofs.CommandLine.Formats
import ApiDoc.Proofs.Router.Mounts

/-!
# Runs with a given path

A run that is given a path that is not empty, in place of each router's own, does not depend on what
the own paths are. This is said of two runs for the same words, on disks whose route files say the
same but for the paths that their routers are mounted at (`RouteFile.SameButMounts`). The runs print
the same, end alike and, if they succeed, leave the same output file (`Outcome.SameBesides`).

**Two runs.** The disks differ in what is in the route file, so their runs are compared step by step
(`Console.Alike`): they have the same result, have printed the same, and the disks still are the
same but for one file. Only one step looks into a file, and that is the reading of the route file.
All others are blind to it (`Console.IsBlind`), so whatever is put together from them is blind too.
When the files have been read, the rest of either run is one and the same program, because the
routes and the notices about them are those of the records (`RouteFile.api_some`).

**The output file** can be the route file itself. Then it is what both runs have written last, which
is the text of the same document.

Main statement: `hides_mounts`. An empty path hides nothing (`not_hides_mounts_of_empty`).
-/

namespace ApiDoc.CommandLine

open Disk (SameBesides SameChange SameMade)

variable {α β : Type} {place : List String}

/-! ## Two runs -/

/-- Runs have come equally far: they have printed the same, and their disks are the same but for a
file. -/
structure Progress.SameBesides (place : List String) (p q : Progress) : Prop where
  output : p.output = q.output
  disk : Disk.SameBesides place p.disk q.disk

namespace Console

/-- Two runs have the same result, and have come equally far then. -/
structure Alike (place : List String) (x : Console α) (p : Progress) (y : Console α)
    (q : Progress) : Prop where
  result : (exec x p).1 = (exec y q).1
  progress : (exec x p).2.SameBesides place (exec y q).2

/-- A run does not look at what is in the file at a place. -/
def IsBlind (place : List String) (x : Console α) : Prop :=
  ∀ p q, p.SameBesides place q → Alike place x p x q

variable {x y : Console α} {f : α → Console β} {p q p' q' : Progress}

theorem Alike.congr {x' y' : Console α} (hx : exec x p = exec x' p') (hy : exec y q = exec y' q')
    (h : Alike place x' p' y' q') : Alike place x p y q :=
  ⟨by rw [hx, hy, h.result], by rw [hx, hy]; exact h.progress⟩

/-- Runs that are alike go on alike. -/
theorem Alike.bind (h : Alike place x p y q) (hf : ∀ a, IsBlind place (f a)) :
    Alike place (x >>= f) p (y >>= f) q := by
  obtain ⟨hresult, hprogress⟩ := h
  have hp := exec_bind x f p
  have hq := exec_bind y f q
  rcases hx : exec x p with ⟨rx, p'⟩
  rcases hy : exec y q with ⟨ry, q'⟩
  rw [hx, hy] at hresult hprogress
  rw [hx] at hp
  rw [hy] at hq
  obtain rfl : rx = ry := hresult
  cases rx with
  | error halt => exact ⟨by rw [hp, hq], by rw [hp, hq]; exact hprogress⟩
  | ok a => exact (hf a p' q' hprogress).congr hp hq

theorem exec_bind_eq_ok {b : β} :
    exec (x >>= f) p = (.ok b, p') ↔ ∃ a q, exec x p = (.ok a, q) ∧ exec (f a) q = (.ok b, p') := by
  rw [exec_bind]
  rcases hx : exec x p with ⟨halt | a, q⟩
  · simp
  · simp

namespace IsBlind

theorem pure (a : α) : IsBlind place (Pure.pure a : Console α) := fun _ _ h => ⟨rfl, h⟩

theorem throw (halt : Halt) : IsBlind place (MonadExcept.throw halt : Console α) :=
  fun _ _ h => ⟨rfl, h⟩

theorem say (text : String) : IsBlind place (say text) := fun _ _ h =>
  ⟨rfl, ⟨congrArg (· ++ text) h.output, h.disk⟩⟩

theorem bind (hx : IsBlind place x) (hf : ∀ a, IsBlind place (f a)) : IsBlind place (x >>= f) :=
  fun p q h => (hx p q h).bind hf

theorem log (verbose : Bool) (notices : List Notice) : IsBlind place (log verbose notices) := by
  unfold Console.log
  induction notices with
  | nil => exact .pure ()
  | cons n notices ih =>
    refine .bind ?_ fun _ => ih
    dsimp only
    split
    · exact .say _
    · exact .pure ()

theorem fail (e : Failure) : IsBlind place (fail e : Console α) := by
  unfold Console.fail
  split
  · refine .bind (.say _) fun _ => ?_
    split
    · exact .bind (.pure ()) fun _ => .throw _
    · exact .bind (.say _) fun _ => .throw _
  · exact .throw _

theorem change {change : Disk → Except FileError Unit × Disk}
    (h : ∀ d e, SameBesides place d e → SameChange place (change d) (change e)) :
    IsBlind place (Console.change change) := by
  intro p q hpq
  obtain ⟨hresult, hdisk⟩ := h p.disk q.disk hpq.disk
  constructor
  · rw [exec_change, exec_change, hresult]
  · rw [exec_change, exec_change]
    exact ⟨hpq.output, hdisk⟩

theorem write (path : FilePath) (bytes : List UInt8) :
    IsBlind place (Console.write path bytes) := by
  refine .change fun d e h => ?_
  have hmade := h.write path bytes
  generalize d.write path bytes = x, e.write path bytes = y at hmade
  cases hmade with
  | error err => exact ⟨rfl, h⟩
  | ok hdisks => exact ⟨rfl, hdisks⟩

end IsBlind

end Console

open Console

/-! ## Requests -/

namespace Request

variable {check : Value → OpenApi.Verdict} {r : Request} {p p' q q' : Progress} {f g : RouteFile}
    {v : Value}
  {mount : String}

/-- What is left of building a document when the route file has been read. -/
def buildFrom (r : Request) (file : RouteFile) : Console Document := do
  Console.log r.verbose (file.notices r.mount)
  let api := file.api r.mount
  Console.sayLine s!"Found {api.routes.length} routes."
  let (result, notices) := api.generate file.config r.options
  Console.log r.verbose notices
  match result with
  | .error e => Console.fail (.content e)
  | .ok document => return document

theorem exec_build (h : RouteFile.load p.disk r.routes = .ok f) :
    exec r.build p =
      exec (do sayLine s!"Reading routes from {r.routes.text}..."; r.buildFrom f) p := by
  have hget (q : Progress) : exec (get : Console Progress) q = (.ok q, q) := rfl
  have hdisk : (exec (sayLine s!"Reading routes from {r.routes.text}...") p).2.disk = p.disk :=
    (prints_say _).1
  unfold build
  rw [exec_bind, exec_bind]
  rcases hsay : exec (sayLine s!"Reading routes from {r.routes.text}...") p with ⟨halt | _, q⟩
  · rfl
  · rw [hsay] at hdisk
    dsimp only at hdisk ⊢
    rw [exec_bind, hget]
    dsimp only
    rw [hdisk, h]
    rfl

theorem blind_buildFrom (r : Request) (file : RouteFile) : IsBlind place (r.buildFrom file) := by
  refine .bind (.log _ _) fun _ => .bind (.say _) fun _ => .bind (.log _ _) fun _ => ?_
  split
  · exact .fail _
  · exact .pure _

/-- A given path makes the same document from route files that say the same but for their routers'
paths. -/
theorem buildFrom_eq (hmount : r.mount = some mount) (hne : mount ≠ "") (h : f.SameButMounts g) :
    r.buildFrom f = r.buildFrom g := by
  unfold buildFrom
  rw [hmount, RouteFile.api_some hne h, RouteFile.notices_some hne h, h.config]

theorem alike_build (hmount : r.mount = some mount) (hne : mount ≠ "") (h : f.SameButMounts g)
    (hf : RouteFile.load p.disk r.routes = .ok f) (hg : RouteFile.load q.disk r.routes = .ok g)
    (hpq : p.SameBesides place q) : Alike place r.build p r.build q := by
  have hblind :
      IsBlind place (do sayLine s!"Reading routes from {r.routes.text}..."; r.buildFrom g) :=
    .bind (.say _) fun _ => r.blind_buildFrom g
  have hp := exec_build hf
  rw [buildFrom_eq hmount hne h] at hp
  exact (hblind p q hpq).congr hp (exec_build hg)

theorem blind_checkDocument (check : Value → OpenApi.Verdict) (v : Value) :
    IsBlind place (checkDocument check v) := by
  unfold checkDocument
  cases check v with
  | valid => exact .say _
  | invalid => exact .bind (.say _) fun _ => .throw _
  | stopped o => exact .throw _

theorem alike_checked (check : Value → OpenApi.Verdict) (h : Alike place r.build p r.build q) :
    Alike place (r.checked check) p (r.checked check) q := by
  refine h.bind fun document => ?_
  dsimp only
  split
  · exact .bind (blind_checkDocument check _) fun _ => .pure _
  · exact .pure _

theorem blind_save (r : Request) (v : Value) : IsBlind place (r.save v) := by
  refine .bind (.change fun d e h => h.makeDirectories _) fun _ => ?_
  cases r.dump v with
  | error e => exact .throw _
  | ok draft =>
    refine .bind (.write _ _) fun _ => ?_
    cases draft.flaw with
    | some e => exact .throw _
    | none => exact .write _ _

/-! ### The output file -/

/-- What has been saved is in the output file. -/
theorem lookup_of_save (h : exec (r.save v) p = (.ok (), p')) :
    ∃ draft, r.dump v = .ok draft ∧
    p'.disk.lookup r.output = some (.file draft.text.toUTF8.toList) := by
  unfold save at h
  obtain ⟨_, q, -, h⟩ := exec_bind_eq_ok.mp h
  cases hdump : r.dump v with
  | error e =>
    rw [hdump] at h
    cases h
  | ok draft =>
    rw [hdump] at h
    obtain ⟨_, q, -, h⟩ := exec_bind_eq_ok.mp h
    refine ⟨draft, rfl, ?_⟩
    -- A text that cannot be encoded is found only after the file has been emptied.
    cases hflaw : draft.flaw with
    | some e =>
      rw [hflaw] at h
      cases h
    | none =>
      rw [hflaw] at h
      have hwrite := ends_write (p := q) r.output draft.text.toUTF8.toList
      unfold Ends at hwrite
      rw [h] at hwrite
      exact Disk.lookup_of_write hwrite

/-- A request that comes to its end has made a value and saved it. -/
theorem lookup_of_perform (h : exec (r.perform check) p = (.ok (), p')) :
    ∃ v draft, (exec (r.checked check) p).1 = .ok v ∧ r.dump v = .ok draft ∧
      p'.disk.lookup r.output = some (.file draft.text.toUTF8.toList) := by
  obtain ⟨v, q, hchecked, h⟩ := exec_bind_eq_ok.mp h
  obtain ⟨_, q', hsave, hsay⟩ := exec_bind_eq_ok.mp h
  obtain ⟨draft, hdraft, hlookup⟩ := lookup_of_save hsave
  have hdisk : (exec (sayLine s!"Spec saved to {r.output.text}") q').2.disk = q'.disk :=
    (prints_say _).1
  rw [hsay] at hdisk
  rw [← hdisk] at hlookup
  exact ⟨v, draft, by rw [hchecked], hdraft, hlookup⟩

/-! ### Two runs -/

theorem alike_perform (check : Value → OpenApi.Verdict) (h : Alike place r.build p r.build q) :
    Alike place (r.perform check) p (r.perform check) q :=
  (alike_checked check h).bind fun v => .bind (r.blind_save v) fun _ => .say _

/-- Two runs that succeed alike have the same output file. -/
theorem sameOutput_of_perform (h : Alike place r.build p r.build q)
    (hp : exec (r.perform check) p = (.ok (), p')) (hq : exec (r.perform check) q = (.ok (), q')) :
    p'.disk.lookup r.output = q'.disk.lookup r.output := by
  obtain ⟨v, draft, hv, hdraft, hlookup⟩ := lookup_of_perform hp
  obtain ⟨v', draft', hv', hdraft', hlookup'⟩ := lookup_of_perform hq
  obtain rfl : v = v' := Except.ok.inj (hv.symm.trans ((alike_checked check h).result.trans hv'))
  obtain rfl : draft = draft' := Except.ok.inj (hdraft.symm.trans hdraft')
  exact hlookup.trans hlookup'.symm

/-- An empty path is no path that is given. -/
theorem perform_empty (check : Value → OpenApi.Verdict) (r : Request) :
    { r with mount := some "" }.perform check = { r with mount := none }.perform check := rfl

end Request

/-! ## Command lines -/

/-- Words are read alike when the same texts lead to something. -/
theorem readCall_eq {d e : Disk} (h : ∀ s, d.hasText s = e.hasText s) (words : List String) :
    readCall d words = readCall e words := by
  have hgenerate (verbose : Bool) (words : List String) :
      readGenerate d verbose words = readGenerate e verbose words := by
    unfold readGenerate
    simp only [h]
  unfold readCall readCommand
  simp only [hgenerate]

/-- Two runs end alike: they have printed the same, and what they leave behind is the same but for
the file at a place. -/
structure Outcome.SameBesides (place : List String) (x y : Outcome) : Prop where
  exitCode : x.exitCode = y.exitCode
  output : x.output = y.output
  escape : x.escape = y.escape
  disk : Disk.SameBesides place x.disk y.disk

theorem Outcome.same_of_alike {d e : Disk} {x y : Console Unit}
    (h : Alike place x { disk := d } y { disk := e }) :
    (Outcome.ofConsole d x).SameBesides place (Outcome.ofConsole e y) := by
  obtain ⟨hresult, houtput, hdisk⟩ := h
  unfold exec at hresult houtput hdisk
  unfold Outcome.ofConsole
  rcases hx : x.run.run { disk := d } with ⟨rx, p⟩
  rcases hy : y.run.run { disk := e } with ⟨ry, q⟩
  rw [hx, hy] at hresult houtput hdisk
  obtain rfl : rx = ry := hresult
  cases rx with
  | error halt => exact ⟨rfl, houtput, rfl, hdisk⟩
  | ok _ => exact ⟨rfl, houtput, rfl, hdisk⟩

theorem Outcome.disk_ofConsole (d : Disk) (x : Console Unit) :
    (Outcome.ofConsole d x).disk = (exec x { disk := d }).2.disk := by
  unfold Outcome.ofConsole exec
  rcases x.run.run { disk := d } with ⟨halt | _, p⟩
  · rfl
  · rfl

variable {check : Value → OpenApi.Verdict} {d e : Disk} {words : List String} {request : Request}
    {p : String}

theorem run_of_call (h : readCall d words = .ok (.generate request)) :
    run d words check = .ofConsole d (request.perform check) := by
  unfold run perform
  rw [h]
  cases words with
  | nil => cases h
  | cons word words => rfl

/-- Words ask for a document below a path that is given, on two disks that are the same but for a
file. The route files there say the same but for the paths that their routers are mounted at. -/
structure DiffersInMounts (place : List String) (words : List String) (request : Request)
    (p : String) (d e : Disk) : Prop where
  disks : Disk.SameBesides place d e
  call : readCall d words = .ok (.generate request)
  given : request.mount = some p
  files : ∃ f g, RouteFile.load d request.routes = .ok f ∧ RouteFile.load e request.routes = .ok g ∧
    f.SameButMounts g

/-- Runs with a given path end alike, whatever the routers are mounted at. -/
theorem sameBesides_of_run (h : DiffersInMounts place words request p d e) (hp : p ≠ "") :
    (run d words check).SameBesides place (run e words check) ∧
      ((run d words check).exitCode = 0 →
        (run d words check).disk.lookup request.output =
          (run e words check).disk.lookup request.output) := by
  obtain ⟨hdisks, hcall, hgiven, f, g, hf, hg, hsame⟩ := h
  have hcall' : readCall e words = .ok (.generate request) := by
    rw [← readCall_eq hdisks.hasText_eq, hcall]
  have hbuild : Alike place request.build { disk := d } request.build { disk := e } :=
    Request.alike_build hgiven hp hsame hf hg ⟨rfl, hdisks⟩
  have houtcomes := Outcome.same_of_alike (Request.alike_perform check hbuild)
  rw [run_of_call hcall, run_of_call hcall']
  refine ⟨houtcomes, fun hzero => ?_⟩
  have hleft := Outcome.exitCode_eq_zero_iff.mp hzero
  have hright := Outcome.exitCode_eq_zero_iff.mp (houtcomes.exitCode ▸ hzero)
  rw [Outcome.disk_ofConsole, Outcome.disk_ofConsole]
  exact Request.sameOutput_of_perform hbuild (Prod.ext hleft rfl) (Prod.ext hright rfl)

/-- **A given path hides the routers' own** if it is not empty. Routers with the same records then
have the same routes, for every filter, and each route stands at the given path joined with that of
its record. So runs for the same words end alike and write the same file, whatever the routers of
the route file are mounted at. An empty path counts as none is given, and hides nothing unless there
is nothing to hide. -/
theorem hides_mounts (check : Value → OpenApi.Verdict) (p : String) :
    (∀ r r' : Router, r.records = r'.records →
      (p ≠ "" → ∀ (m : Type → Type) [Monad m] (keep : RouteRecord → m Bool),
        r.collectM (some p) keep = r'.collectM (some p) keep) ∧
      ∀ keep, r.collect (some p) keep = r'.collect (some p) keep ↔
        p ≠ "" ∨ r.mountWith none = r'.mountWith none ∨ r.collect none keep = []) ∧
    (p ≠ "" → ∀ (r : Router) keep, ∀ route ∈ r.collect (some p) keep, ∃ record ∈ r.records,
      record.info.ignore = false ∧ keep record = true ∧ route ∈ record.routes p ∧
        route.fullPath = Path.join p record.path) ∧
    (p ≠ "" → ∀ place words request d e, DiffersInMounts place words request p d e →
      (run d words check).SameBesides place (run e words check) ∧
        ((run d words check).exitCode = 0 → (run d words check).disk.lookup request.output =
          (run e words check).disk.lookup request.output)) ∧
    ∀ r : Request,
      { r with mount := some "" }.perform check = { r with mount := none }.perform check := by
  refine ⟨fun r r' h => ⟨fun hp m _ keep => ?_, fun keep => Router.collect_some_eq_iff h⟩, ?_, ?_,
    Request.perform_empty check⟩
  · rw [Router.collectM_some hp, Router.collectM_some hp, h]
  · intro hp r keep route hroute
    exact Router.mem_collect_some hp hroute
  · intro hp place words request d e h
    exact sameBesides_of_run h hp

namespace Sample

def router (mount : Option String) : Router :=
  { mount, records := [{ methods := [.get], path := "/a" }] }

/-- A disk with a route file whose router is mounted at a path. -/
def mounted (mount : String) : Disk :=
  let text := "document: \x7binfo: \x7b\x7d, basePath: /\x7d\n"
    ++ s!"routers: [\x7bprefix: {mount}, routes: [\x7bmethod: get, path: /a\x7d]\x7d]\n"
  { entries := [(["r.yaml"], .file (text.toList.map fun c => UInt8.ofNat c.toNat))] }

/-- A route file says no more than that there is one router of that kind. -/
def isPlain (f : RouteFile) : Bool :=
  match f.config, f.routers with
  | ⟨[], base, swagger, [], [], []⟩, [⟨_, [⟨methods, path, info, none, []⟩]⟩] =>
    decide (base = "/" ∧ swagger = "2.0" ∧ methods = [.get] ∧ path = "/a" ∧ info = {})
  | _, _ => false

theorem isPlain_iff {f : RouteFile} :
    isPlain f = true ↔ ∃ mount, f = ⟨{ info := [], basePath := "/" }, [router mount]⟩ := by
  constructor
  · intro h
    obtain ⟨config, routers⟩ := f
    unfold isPlain at h
    split at h
    · rename_i mount _ _ _ hconfig hrouters
      obtain ⟨rfl, rfl, rfl, rfl, rfl⟩ := of_decide_eq_true h
      exact ⟨_, congrArg₂ RouteFile.mk hconfig hrouters⟩
    · cases h
  · rintro ⟨mount, rfl⟩
    rfl

/-- Words that ask for the document below the path `/all`. -/
def wordsForAll : List String := generateWords "r.yaml" "api.json" (some "/all") true false

theorem differsInMounts : DiffersInMounts ["r.yaml"] wordsForAll
    (generateRequest "r.yaml" "api.json" (some "/all") true false) "/all" (mounted "/own")
      (mounted "/other") := by
  have hfile (mount : String)
      (h : (RouteFile.load (mounted mount) (.ofText "r.yaml")).toOption.any isPlain = true) :
      ∃ f, RouteFile.load (mounted mount) (.ofText "r.yaml") = .ok f ∧ isPlain f = true := by
    cases hload : RouteFile.load (mounted mount) (.ofText "r.yaml") with
    | error e =>
      rw [hload] at h
      cases h
    | ok f =>
      rw [hload] at h
      exact ⟨f, rfl, h⟩
  obtain ⟨f, hf, hplain⟩ := hfile "/own" (by decide +kernel)
  obtain ⟨g, hg, hplain'⟩ := hfile "/other" (by decide +kernel)
  refine ⟨⟨⟨_, rfl⟩, ⟨_, rfl⟩, fun q hq => ?_⟩, ?_, rfl, f, g, hf, hg, ?_⟩
  · have hne : (q == ["r.yaml"]) = false := by simpa using hq
    simp [Disk.content?, mounted, List.lookup_cons, hne]
  · rw [wordsForAll, readCall_generateWords (by decide), if_pos (by decide +kernel)]
  · obtain ⟨_, rfl⟩ := isPlain_iff.mp hplain
    obtain ⟨_, rfl⟩ := isPlain_iff.mp hplain'
    exact ⟨rfl, .cons rfl .nil⟩

end Sample

/-- Below the path `/all`, two routers with paths of their own give the same routes and the same
file. -/
theorem hides_mounts_sample :
    (Sample.router (some "/own")).collect (some "/all") (fun _ => true) =
        (Sample.router (some "/other")).collect (some "/all") (fun _ => true) ∧
      DiffersInMounts ["r.yaml"] Sample.wordsForAll
        (generateRequest "r.yaml" "api.json" (some "/all") true false) "/all"
          (Sample.mounted "/own")
        (Sample.mounted "/other") ∧
      (run (Sample.mounted "/own") Sample.wordsForAll).exitCode = 0 ∧
      (run (Sample.mounted "/own") Sample.wordsForAll).disk.lookup (.ofText "api.json") =
        (run (Sample.mounted "/other") Sample.wordsForAll).disk.lookup (.ofText "api.json") := by
  have hall : "/all" ≠ "" := by decide
  have hzero : (run (Sample.mounted "/own") Sample.wordsForAll).exitCode = 0 := by decide +kernel
  obtain ⟨hrouters, -, hruns, -⟩ := hides_mounts OpenApi.check "/all"
  obtain ⟨-, hroutes⟩ := hrouters (Sample.router (some "/own")) (Sample.router (some "/other")) rfl
  obtain ⟨-, hfile⟩ := hruns hall _ _ _ _ _ Sample.differsInMounts
  exact ⟨(hroutes _).mpr (.inl hall), Sample.differsInMounts, hzero, hfile hzero⟩

/-- The empty path is given, and routers with the same records have different routes. -/
theorem not_hides_mounts_of_empty :
    ¬ ∀ (r r' : Router) (p : String) (keep : RouteRecord → Bool), r.records = r'.records →
      r.collect (some p) keep = r'.collect (some p) keep := by
  intro h
  have hsame := h (Sample.router (some "/own")) (Sample.router none) "" (fun _ => true) rfl
  have hpaths := congrArg (·.map (·.fullPath)) hsame
  exact absurd hpaths (by decide +kernel)

end ApiDoc.CommandLine
