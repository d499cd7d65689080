import ApiDoc.Proofs.CommandLine.Atomicity

/-!
# JSON and YAML output

The name of the output file decides in which format a document is written. YAML has a text for every
document but those with an integer beyond a length, while JSON has texts only for documents with a
JSON form whose texts are of characters. A route file is read as YAML, so its values can be dates,
byte strings, sets and containers inside of themselves, and some of them end up in the document. So
JSON can fail where YAML succeeds, and never the other way round.

How deep a document may be nested is not limited here. A writer with a bounded stack can also fail
on a document that is nested too deeply for it, in one format sooner than in the other; that failure
is not modelled, and what is said of both formats is said apart from it.

Main statement: `exitCode_json_eq_zero_iff`.
-/

namespace ApiDoc.CommandLine

open Console

/-! ## Requests that succeed -/

namespace Request

variable {check : Value → OpenApi.Verdict} {r : Request} {p : Progress} {v : Value}

theorem exec_write_eq_ok {path : FilePath} {bytes : List UInt8} :
    (exec (Console.write path bytes) p).1 = .ok () ↔ ∃ d, p.disk.write path bytes = .ok d := by
  unfold Console.write
  rw [exec_change]
  cases p.disk.write path bytes with
  | error e => exact iff_of_false nofun nofun
  | ok d => exact iff_of_true rfl ⟨d, rfl⟩

theorem exec_overwrite_eq_ok {path : FilePath} {bytes : List UInt8} :
    (exec (do Console.write path []; Console.write path bytes) p).1 = .ok () ↔
      ∃ d, p.disk.write path [] = .ok d := by
  rw [← exec_write_eq_ok, exec_bind]
  have hopen := ends_write (p := p) path []
  unfold Ends at hopen
  rcases hx : exec (Console.write path []) p with ⟨halt | _, q⟩
  · simp
  · simp only [hx] at hopen
    obtain ⟨d, hwrite, -⟩ := Disk.write_of_write hopen bytes
    exact iff_of_true (exec_write_eq_ok.mpr ⟨d, hwrite⟩) rfl

/-- Work behind a change of the disk is done if the change succeeds. -/
theorem exec_after_change {change : Disk → Except FileError Unit × Disk} {next : Console Unit} :
    (exec (do Console.change change; next) p).1 = .ok () ↔ (change p.disk).1 = .ok () ∧
      (exec next { p with disk := (change p.disk).2 }).1 = .ok () := by
  rw [exec_bind, exec_change]
  cases (change p.disk).1 with
  | error e => exact iff_of_false nofun nofun
  | ok => exact (and_iff_right rfl).symm

/-- Saving succeeds when the output file can be written and the document has a text without a
flaw. -/
theorem exec_save_eq_ok : (exec (r.save v) p).1 = .ok () ↔
    r.CanWrite p.disk ∧ ∃ text, r.dump v = .ok { text } := by
  unfold save CanWrite
  rw [exec_after_change, and_assoc]
  refine and_congr_right' ?_
  cases r.dump v with
  | error e => exact iff_of_false nofun nofun
  | ok draft =>
    obtain ⟨text, flaw⟩ := draft
    cases flaw with
    | none =>
      simp only [Except.ok.injEq, Json.Draft.mk.injEq, and_true, exists_eq', exec_overwrite_eq_ok]
    | some e =>
      refine iff_of_false ?_ (by simp)
      dsimp only
      rw [exec_bind]
      rcases exec (Console.write r.output []) _ with ⟨halt | _, q⟩ <;> exact nofun

/-- A request succeeds when its document is made, and saving succeeds. -/
theorem exec_perform_eq_ok : (exec (r.perform check) p).1 = .ok () ↔
    ∃ v, r.Makes check p.disk v ∧ r.CanWrite p.disk ∧ ∃ text, r.dump v = .ok { text } := by
  unfold perform
  rw [exec_bind]
  obtain ⟨hdisk, hresult⟩ := prints_checked check r p
  rcases hx : exec (r.checked check) p with ⟨halt | v, q⟩
  · simp only [hx, reduceCtorEq, false_iff] at hresult
    refine iff_of_false nofun ?_
    rintro ⟨v, hmakes, -⟩
    exact hresult v hmakes
  · simp only [hx, Except.ok.injEq] at hdisk hresult
    -- The closing line cannot fail, so the save decides.
    have hsave :
        (exec (do r.save v; Console.sayLine s!"Spec saved to {r.output.text}") q).1 = .ok () ↔
        (exec (r.save v) q).1 = .ok () := by
      rw [exec_bind]
      rcases exec (r.save v) q with ⟨halt | _, q'⟩ <;> exact Iff.rfl
    rw [hsave, exec_save_eq_ok, hdisk]
    constructor
    · exact fun h => ⟨v, (hresult v).mp rfl, h⟩
    · rintro ⟨v', hmakes, h⟩
      obtain rfl := (hresult v').mpr hmakes
      exact h

end Request

/-! ## Command lines -/

/-- The words that ask for the document of a route file. -/
def generateWords (file output : String) (mount : Option String) (defaults check : Bool) :
    List String :=
  generateName :: file :: "-o" :: output :: ((mount.elim [] fun m => ["--prefix", m])
    ++ ((if defaults then [] else ["--no-default-responses"]) ++
      (if check then ["--check"] else [])))

/-- The settings that these words make. -/
def generateArguments (file output : String) (mount : Option String) (defaults check : Bool) :
    Arguments :=
  { positional := [file]
    settings := [{ option := outputFlag, value := output }]
      ++ ((mount.elim [] fun m => [{ option := mountFlag, value := m }])
      ++ ((if defaults then [] else [{ option := bareFlag }])
      ++ (if check then [{ option := checkFlag }] else []))) }

/-- The request that these words make. -/
def generateRequest (file output : String) (mount : Option String) (defaults check : Bool) :
    Request :=
  { routes := .ofText file, output := .ofText output, mount, defaults, check }

namespace Arguments

variable {options : List Flag} {file word value name : String} {f : Flag} {words : List String}

/-- A word that does not look like an option is a positional argument. -/
theorem readFrom_positional (hfile : file.toList.head? ≠ some '-') :
    readFrom options true none (file :: words) = do
      let a ← readFrom options true none words
      return { a with positional := file :: a.positional } := by
  have hword : file ≠ "--" := by
    rintro rfl
    exact hfile rfl
  have hnone : options? options file.toList = none := by
    unfold options?
    split
    · rename_i h
      simp [h] at hfile
    · rename_i h
      simp [h] at hfile
    · rfl
  rw [readFrom]
  simp only [hword, if_false, hnone, if_true]

/-- An option takes the next word as its value. -/
theorem readFrom_valued (hoption : options? options word.toList = some (.ok ([], some (name, f))))
    (hword : word ≠ "--") : readFrom options true none (word :: value :: words) =
      withSettings [{ option := f, value := value }] <$> readFrom options true none words := by
  rw [readFrom]
  simp only [hword, if_false, hoption, readFrom]
  cases readFrom options true none words <;> rfl

/-- An option without a value sets itself. -/
theorem readFrom_flag
    (hoption : options? options word.toList = some (.ok ([{ option := f }], none)))
    (hword : word ≠ "--") : readFrom options true none (word :: words) =
      withSettings [{ option := f }] <$> readFrom options true none words := by
  rw [readFrom]
  simp only [hword, if_false, hoption]

end Arguments

open Arguments

variable {file output : String} {mount : Option String} {defaults checked : Bool}

theorem readFrom_checked :
    readFrom generatePage.options true none (if checked then ["--check"] else []) =
    .ok { settings := if checked then [{ option := checkFlag }] else [] } := by
  cases checked with
  | false => rfl
  | true =>
    have hcheck : options? generatePage.options "--check".toList =
        some (.ok ([{ option := checkFlag }], none)) := rfl
    rw [if_pos rfl, readFrom_flag hcheck (by decide)]
    rfl

theorem readFrom_defaults {words : List String} {a : Arguments}
    (h : readFrom generatePage.options true none words = .ok a) :
    readFrom generatePage.options true none
      ((if defaults then [] else ["--no-default-responses"]) ++ words) =
      .ok (withSettings (if defaults then [] else [{ option := bareFlag }]) a) := by
  cases defaults with
  | false =>
    have hbare : options? generatePage.options "--no-default-responses".toList =
        some (.ok ([{ option := bareFlag }], none)) := rfl
    show readFrom _ true none ("--no-default-responses" :: words) = _
    rw [readFrom_flag hbare (by decide), h]
    rfl
  | true => exact h

theorem readFrom_mounted {words : List String} {a : Arguments}
    (h : readFrom generatePage.options true none words = .ok a) :
    readFrom generatePage.options true none ((mount.elim [] fun m => ["--prefix", m]) ++ words) =
      .ok (withSettings (mount.elim [] fun m => [{ option := mountFlag, value := m }]) a) := by
  cases mount with
  | none => exact h
  | some m =>
    have hmount : options? generatePage.options "--prefix".toList =
        some (.ok ([], some ("--prefix", mountFlag))) := rfl
    show readFrom _ true none ("--prefix" :: m :: words) = _
    rw [readFrom_valued hmount (by decide), h]
    rfl

/-- The words are read from the end on, each choice for itself. -/
theorem read_generateWords (hfile : file.toList.head? ≠ some '-') :
    Arguments.read generatePage.options true
      (generateWords file output mount defaults checked).tail =
      .ok (generateArguments file output mount defaults checked) := by
  have houtput : options? generatePage.options "-o".toList =
      some (.ok ([], some ("-o", outputFlag))) := rfl
  unfold generateWords Arguments.read
  rw [List.tail_cons, readFrom_positional hfile, readFrom_valued houtput (by decide),
    readFrom_mounted (readFrom_defaults readFrom_checked)]
  rfl

theorem value?_generateArguments (file output : String) (mount : Option String)
    (defaults check : Bool) :
    let a := generateArguments file output mount defaults check
    a.has helpFlag = false ∧ a.value? outputFlag = some output ∧ a.value? mountFlag = mount ∧
      a.has bareFlag = !defaults ∧ a.has checkFlag = check := by
  cases mount <;> cases defaults <;> cases check <;> exact ⟨rfl, rfl, rfl, rfl, rfl⟩

/-- The words are read as the request, if the route file is there. -/
theorem readCall_generateWords {disk : Disk} (hfile : file.toList.head? ≠ some '-') :
    readCall disk (generateWords file output mount defaults checked) =
      if disk.hasText file then .ok (.generate (generateRequest file output mount defaults checked))
      else .error (generatePage, .missingPath routesArgument file) := by
  have hgenerate :
      readGenerate disk false (generateWords file output mount defaults checked).tail =
        if disk.hasText file then
          .ok (.generate (generateRequest file output mount defaults checked))
        else .error (.missingPath routesArgument file) := by
    obtain ⟨hhelp, houtput, hmount, hbare, hcheck⟩ :=
      value?_generateArguments file output mount defaults checked
    unfold readGenerate
    rw [read_generateWords hfile]
    dsimp only [bind, Except.bind]
    rw [hhelp, houtput, hmount, hbare, hcheck, Bool.not_not]
    show (if disk.hasText file = true then _ else _) = _
    cases disk.hasText file <;> rfl
  show readCommand disk false generateName
    (generateWords file output mount defaults checked).tail = _
  unfold readCommand
  rw [if_pos rfl, hgenerate]
  cases disk.hasText file <;> rfl

/-- A run with these words succeeds when the request does. -/
theorem exitCode_generateWords {check : Value → OpenApi.Verdict} {disk : Disk}
    (hfile : file.toList.head? ≠ some '-') :
    (run disk (generateWords file output mount defaults checked) check).exitCode = 0 ↔
      disk.hasText file ∧
        let r := generateRequest file output mount defaults checked
        ∃ v, r.Makes check disk v ∧ r.CanWrite disk ∧ ∃ text, r.dump v = .ok { text } := by
  show (Outcome.ofConsole disk (perform check disk _)).exitCode = 0 ↔ _
  rw [Outcome.exitCode_eq_zero_iff]
  unfold perform
  rw [readCall_generateWords hfile]
  cases disk.hasText file with
  | false => exact iff_of_false nofun nofun
  | true => exact Request.exec_perform_eq_ok.trans (and_iff_right rfl).symm

/-! ## Both formats -/

/-- A file in the starting directory can be written unless it is a directory. -/
theorem Request.canWrite_of_name {r : Request} {disk : Disk} {name : String}
    (houtput : r.output = ⟨false, [name]⟩) (hname : name ≠ "..")
    (hfree : disk.hasDirectory r.output = false) : r.CanWrite disk := by
  have hplace : disk.placeOf ⟨false, [name]⟩ = .ok [name] := by
    show (if name = ".." then _ else _) = _
    rw [if_neg hname]
    rfl
  have hcontent : disk.content? [name] ≠ some .directory := by
    intro h
    have : disk.hasDirectory r.output = true := by
      rw [houtput, Disk.hasDirectory, Disk.lookup, hplace]
      simp [h]
    rw [hfree] at this
    cases this
  unfold CanWrite
  rw [houtput]
  exact ⟨rfl, _, Disk.write_eq_ok.mpr ⟨[name], hplace, hcontent, rfl⟩⟩

/-- The texts that a request has for the documents it comes to decide whether it succeeds. -/
theorem exitCode_eq_zero_iff_of_dump {check : Value → OpenApi.Verdict} {disk : Disk} {name : String}
    {P : Value → Prop} (hfile : file.toList.head? ≠ some '-')
    (houtput : FilePath.ofText output = ⟨false, [name]⟩) (hname : name ≠ "..")
    (hfree : disk.hasDirectory (.ofText output) = false)
    (hdump : ∀ r : Request, r.output = .ofText output →
      ∀ v, (∃ text, r.dump v = .ok { text }) ↔ P v) :
    (run disk (generateWords file output mount defaults checked) check).exitCode = 0 ↔
      disk.hasText file ∧
        ∃ v, (generateRequest file output mount defaults checked).Makes check disk v ∧ P v := by
  rw [exitCode_generateWords hfile]
  refine and_congr_right fun _ => exists_congr fun v => and_congr_right fun _ => ?_
  rw [hdump (generateRequest file output mount defaults checked) rfl]
  exact and_iff_right (Request.canWrite_of_name houtput hname hfree)

/-- What a request comes to does not depend on the output file. -/
theorem makes_generateRequest {check : Value → OpenApi.Verdict} {disk : Disk} {v : Value}
    (output other : String) :
    (generateRequest file output mount defaults checked).Makes check disk v ↔
      (generateRequest file other mount defaults checked).Makes check disk v := Iff.rfl

theorem exists_dump_json {r : Request} (houtput : r.output = .ofText "out.json") (v : Value) :
    (∃ text, r.dump v = .ok { text }) ↔ v.hasJsonForm ∧ v.isWhole := by
  have hending : (FilePath.ofText "out.json").ending = ".json" := by decide +kernel
  rw [← Json.exists_indented_iff, Request.dump, houtput, if_pos hending]
  constructor
  · rintro ⟨text, h⟩
    exact ⟨_, h, rfl⟩
  · rintro ⟨⟨text, flaw⟩, h, rfl⟩
    exact ⟨text, h⟩

theorem exists_dump_yaml {r : Request} (houtput : r.output = .ofText "out.yaml") (v : Value) :
    (∃ text, r.dump v = .ok { text }) ↔ v.hasLongInteger = false := by
  have hending : (FilePath.ofText "out.yaml").ending ≠ ".json" := by decide +kernel
  rw [Request.dump, houtput, if_neg hending]
  cases v.hasLongInteger <;> simp

/-- **JSON asks for more than YAML.** A route file gives a JSON file exactly when it gives a YAML
file and its document has a JSON form and texts of characters, whatever the options are. -/
theorem exitCode_json_eq_zero_iff (check : Value → OpenApi.Verdict) (disk : Disk) (file : String)
    (mount : Option String) (defaults checked : Bool) (hfile : file.toList.head? ≠ some '-')
    (hjson : disk.hasDirectory (.ofText "out.json") = false)
    (hyaml : disk.hasDirectory (.ofText "out.yaml") = false) :
    (run disk (generateWords file "out.json" mount defaults checked) check).exitCode = 0 ↔
      (run disk (generateWords file "out.yaml" mount defaults checked) check).exitCode = 0 ∧
        ∀ document, (generateRequest file "out.json" mount defaults checked).document? disk =
          some document → document.toValue.hasJsonForm ∧ document.toValue.isWhole := by
  have hplaceJson : FilePath.ofText "out.json" = ⟨false, ["out.json"]⟩ := by decide +kernel
  have hplaceYaml : FilePath.ofText "out.yaml" = ⟨false, ["out.yaml"]⟩ := by decide +kernel
  rw [exitCode_eq_zero_iff_of_dump hfile hplaceJson (by decide) hjson
      fun _ h => exists_dump_json h,
    exitCode_eq_zero_iff_of_dump hfile hplaceYaml (by decide) hyaml
      fun _ h => exists_dump_yaml h, and_assoc]
  refine and_congr_right fun _ => ?_
  simp only [makes_generateRequest "out.yaml" "out.json"]
  -- A value with a JSON form holds no integer too long for YAML, so JSON asks for more.
  constructor
  · rintro ⟨v, hmakes, hform⟩
    refine ⟨⟨v, hmakes, Value.hasLongInteger_of_hasJsonForm v hform.1⟩,
      fun document hdocument => ?_⟩
    obtain ⟨document', hdocument', rfl, -⟩ := hmakes
    obtain rfl : document' = document := Option.some.inj (hdocument'.symm.trans hdocument)
    exact hform
  · rintro ⟨⟨v, hmakes, -⟩, hform⟩
    refine ⟨v, hmakes, ?_⟩
    obtain ⟨document, hdocument, rfl, -⟩ := hmakes
    exact hform document hdocument

namespace Sample

/-- A disk with a route file, whose document has the date 2020-01-02 if it is dated. -/
def released (dated : Bool) : Disk :=
  let day := if dated then "2020-01-02" else "today"
  let text := s!"document: \x7binfo: \x7breleased: {day}\x7d, basePath: /\x7d\n"
  { entries := [(["r.yaml"], .file (text.toList.map fun c => UInt8.ofNat c.toNat))] }

end Sample

/-- A document without a date is written in both formats. -/
theorem exitCode_json_eq_zero_iff_sample :
    "r.yaml".toList.head? ≠ some '-' ∧
      (Sample.released false).hasDirectory (.ofText "out.json") = false ∧
      (Sample.released false).hasDirectory (.ofText "out.yaml") = false ∧
      (run (Sample.released false)
        (generateWords "r.yaml" "out.json" (some "/v2") false false)).exitCode = 0 := by
  have hjson : (Sample.released false).hasDirectory (.ofText "out.json") = false := by
    decide +kernel
  have hyaml : (Sample.released false).hasDirectory (.ofText "out.yaml") = false := by
    decide +kernel
  have hzero : (run (Sample.released false)
      (generateWords "r.yaml" "out.yaml" (some "/v2") false false)).exitCode = 0 := by
    decide +kernel
  refine ⟨by decide, hjson, hyaml,
    (exitCode_json_eq_zero_iff OpenApi.check _ _ _ _ _ (by decide) hjson
      hyaml).mpr ⟨hzero, fun document hdocument => ?_⟩⟩
  have hform : (((generateRequest "r.yaml" "out.json" (some "/v2") false false).document?
      (Sample.released false)).all fun d => d.toValue.hasJsonForm && d.toValue.isWhole) = true := by
    decide +kernel
  simpa [hdocument] using hform

/-- The format decides whether a document with a date is written. -/
theorem not_exitCode_json_iff_yaml :
    ¬ ((run (Sample.released true)
          (generateWords "r.yaml" "out.json" none true false)).exitCode = 0 ↔
        (run (Sample.released true)
          (generateWords "r.yaml" "out.yaml" none true false)).exitCode = 0) := by
  decide +kernel

end ApiDoc.CommandLine
