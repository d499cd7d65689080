import ApiDoc.Proofs.Json.Decoding
import ApiDoc.Proofs.Json.Values
import ApiDoc.Proofs.Router.Unlabelled

/-!
# Route files in JSON

A route file in JSON is read as YAML. In the part that the two have in common it says what it says
as JSON: the configuration and the routers are those of the decoded value, or the failure is the one
that reading them ends with, up to which objects the containers are (`RouteFile.load_json`).

Outside of that part it need not: a number with an exponent but no point is a number in JSON and a
text in YAML (`RouteFile.not_forall_load_json`).
-/

namespace ApiDoc

open Value

namespace Json

/-! ## The value of a tree, with labels and without -/

/-- The containers around a node have smaller numbers. -/
def AreBefore (n : Nat) (path : List Label) : Prop := ∀ l ∈ path, ∃ p < n, l = .source p

theorem AreBefore.mono {n m : Nat} {path : List Label} (h : AreBefore n path) (hnm : n ≤ m) :
    AreBefore m path :=
  fun l hl => (h l hl).imp fun _ hp => ⟨Nat.lt_of_lt_of_le hp.1 hnm, hp.2⟩

theorem AreBefore.cons {n : Nat} {path : List Label} (h : AreBefore n path) :
    AreBefore (n + 1) (.source n :: path) :=
  List.forall_mem_cons.mpr ⟨⟨n, Nat.lt_succ_self n, rfl⟩, h.mono (Nat.le_succ n)⟩

theorem AreBefore.source_mem {n : Nat} {path : List Label} (h : AreBefore n path)
    (hn : .source n ∈ path) :
    Label.source n = .none := by
  obtain ⟨p, hp, heq⟩ := h _ hn
  cases heq
  exact absurd hp (Nat.lt_irrefl _)

mutual

theorem Tree.isTree_valueAt (t : Tree) {n : Nat} {path : List Label} (hpath : AreBefore n path) :
    (t.valueAt n).IsTree path := by
  cases t with
  | scalar x => cases x <;> constructor
  | emptyArray space => exact .list hpath.source_mem nofun
  | array items => exact .list hpath.source_mem (items.isTree_of_mem_valuesAt hpath.cons)
  | emptyObject space => exact .map hpath.source_mem nofun nofun
  | object members =>
    have hentries := (members.areTrees_entriesAt hpath.cons).ofList.1
    exact .map hpath.source_mem (fun e he => (hentries e he).1) fun e he => (hentries e he).2

theorem Items.isTree_of_mem_valuesAt (items : Items) {n : Nat} {path : List Label}
    (hpath : AreBefore n path) :
    ∀ v ∈ items.valuesAt n, v.IsTree path := by
  cases items with
  | last before item after => exact List.forall_mem_singleton.mpr (item.isTree_valueAt hpath)
  | more before item after others =>
    exact List.forall_mem_cons.mpr ⟨item.isTree_valueAt hpath,
      others.isTree_of_mem_valuesAt (hpath.mono (Nat.le_add_right ..))⟩

theorem Members.areTrees_entriesAt (members : Members) {n : Nat} {path : List Label}
    (hpath : AreBefore n path) :
    Entries.AreTrees path (members.entriesAt n) := by
  have hbehind := hpath.mono (Nat.le_succ n)
  cases members with
  | last key before item after =>
    exact Entries.areTrees_cons.mpr ⟨⟨_, rfl⟩, item.isTree_valueAt hbehind, nofun⟩
  | more key before item after others =>
    exact Entries.areTrees_cons.mpr ⟨⟨_, rfl⟩, item.isTree_valueAt hbehind,
      others.areTrees_entriesAt (hbehind.mono (Nat.le_add_right ..))⟩

end

mutual

/-- Without labels the value of a tree is what the tree stands for. -/
theorem Tree.unlabelled_valueAt (t : Tree) {n : Nat} {path : List Label}
    (hpath : AreBefore n path) :
    (t.valueAt n).unlabelled = t.value := by
  cases t with
  | scalar x => cases x <;> rfl
  | emptyArray | emptyObject => rfl
  | array items => exact congrArg Value.listOf (items.unlabelled_valuesAt hpath.cons)
  | object members =>
    have hentries := (members.areTrees_entriesAt hpath.cons).ofList.2
    rw [members.unlabelled_entriesAt hpath.cons] at hentries
    exact congrArg (Value.map .none) hentries.symm

theorem Items.unlabelled_valuesAt (items : Items) {n : Nat} {path : List Label}
    (hpath : AreBefore n path) :
    unlabelledItems (items.valuesAt n) = items.values := by
  cases items with
  | last before item after => exact congrArg (fun v => [v]) (item.unlabelled_valueAt hpath)
  | more before item after others =>
    exact congrArg₂ List.cons (item.unlabelled_valueAt hpath)
      (others.unlabelled_valuesAt (hpath.mono (Nat.le_add_right ..)))

theorem Members.unlabelled_entriesAt (members : Members) {n : Nat} {path : List Label}
    (hpath : AreBefore n path) :
    unlabelledEntries (members.entriesAt n) = members.entries := by
  have hbehind := hpath.mono (Nat.le_succ n)
  cases members with
  | last key before item after =>
    exact congrArg (fun v => [(Value.str (stringValue key.letters), v)])
      (item.unlabelled_valueAt hbehind)
  | more key before item after others =>
    exact congrArg₂ (fun v es => (Value.str (stringValue key.letters), v) :: es)
      (item.unlabelled_valueAt hbehind)
      (others.unlabelled_entriesAt (hbehind.mono (Nat.le_add_right ..)))

end

end Json

namespace RouteFile

open Json

/-! ## Loading -/

/-- What loading comes to, without labels. -/
def outcome (r : Except Failure RouteFile) : Except Failure RouteFile :=
  (r.map unlabelled).mapError Failure.unlabelled

/-- Reads the configuration and each router. -/
def validate (document : Value) (routers : List Value) : Except Failure RouteFile :=
  Except.mapError .content do
    let config ← DocumentConfig.ofValue document
    let routers ← routers.mapM Router.ofValue
    return { config, routers }

/-- A text of the common part says what its JSON value says. -/
theorem ofText_written (file : String) {x : Source} (hx : x.IsCommon) (htree : ¬ x.tree.IsScalar) :
    outcome (ofText file (Text.unifyLines x.chars)) = RouteFile.ofValue file x.value := by
  have htop : AreBefore 0 [] := nofun
  unfold ofText
  rw [x.unifyLines_chars, x.read_written hx htree]
  exact (ofValue_unlabelled (x.tree.isTree_valueAt htop) file).symm.trans
    (congrArg (RouteFile.ofValue file) (x.tree.unlabelled_valueAt htop))

theorem ofValue_eq_validate (file : String) {entries : Entries} {document : Value}
    {routers : List Value} (hdocument : Entries.get? entries "document" = some document)
    (hrouters : Entries.get? entries "routers" = some (.listOf routers)) :
    RouteFile.ofValue file (.map .none entries) = validate document routers := by
  have hread : readRouters (.listOf routers) = routers.mapM Router.ofValue := by
    cases routers <;> rfl
  unfold RouteFile.ofValue
  dsimp only [Value.entries?]
  rw [hdocument, hrouters]
  dsimp only [Option.getD]
  rw [hread]
  rfl

/-- The value of an object is read from no text but that of an object. -/
theorem not_isScalar_of_value {t : Tree} {entries : Entries} (h : t.value = .map .none entries) :
    ¬ t.IsScalar := by
  cases t with
  | scalar x => cases x <;> cases h
  | emptyArray | array | emptyObject | object => exact id

variable {disk : Disk} {path : FilePath} {bytes : List UInt8} {x : Source} {entries : Entries}
    {document : Value}
  {routers : List Value}

/-- A route file in JSON says what its decoded value says: its configuration is the one of
`document`, and its routers are those of the list, one by one. When one of them cannot be read, that
is the failure, with its message. -/
theorem load_json (hread : disk.read path = .ok bytes) (hbytes : Text.decode bytes = .ok x.chars)
    (hcommon : x.IsCommon) (hjson : Json.read? (.ofList x.chars) = some (.map .none entries))
    (hdocument : Entries.get? entries "document" = some document)
    (hrouters : Entries.get? entries "routers" = some (.listOf routers)) :
    outcome (load disk path) = validate document routers ∧
      ∀ e, load disk path = .error e →
      ∃ e', validate document routers = .error e' ∧ e.message = e'.message := by
  have hvalue : x.value = .map .none entries := Option.some.inj (x.read?_chars.symm.trans hjson)
  have hload : load disk path = ofText path.text (Text.unifyLines x.chars) := by
    unfold load ofBytes
    rw [hread]
    dsimp only
    rw [hbytes]
  have houtcome : outcome (load disk path) = validate document routers := by
    rw [hload, ofText_written _ hcommon (not_isScalar_of_value hvalue), hvalue,
      ofValue_eq_validate _ hdocument hrouters]
  refine ⟨houtcome, fun e he => ⟨e.unlabelled, ?_, e.message_unlabelled.symm⟩⟩
  rw [← houtcome, he]
  rfl

/-! ## A text for each number -/

/-- A string of characters that stand for themselves. -/
def rawLetters (s : String) (h : s.toList.all isRaw = true) : List Letter :=
  s.toList.pmap Letter.raw (List.all_eq_true.mp h)

/-- A route file without routers that has a number in the information about its document. -/
def withNumber (n : Numeral) : Source where
  before := []
  tree := .object <|
    .more ⟨[], rawLetters "document" (by decide), []⟩ []
      (.object <|
        .more ⟨[], rawLetters "info" (by decide), []⟩ []
          (.object (.last ⟨[], rawLetters "x" (by decide), []⟩ [] (.scalar (.number n)) [])) [] <|
        .last ⟨[], rawLetters "basePath" (by decide), []⟩ []
          (.scalar (.string (rawLetters "/" (by decide)))) [])
      [] <|
    .last ⟨[], rawLetters "routers" (by decide), []⟩ [] (.emptyArray []) []
  after := []

def documentWithNumber (n : Numeral) : Value :=
  .map .none [(.str "info", .map .none [(.str "x", .number n.value)]), (.str "basePath", .str "/")]

def diskWithNumber (n : Numeral) : Disk :=
  ⟨[(["a.json"], .file ((withNumber n).chars.map (·.toNat.toUInt8)))]⟩

/-- The number `1.5`. -/
def oneAndHalf : Numeral where
  negative := false
  whole := ⟨['1'], nofun, List.forall_mem_singleton.mpr rfl⟩
  lead := nofun
  fraction := some ⟨['5'], nofun, List.forall_mem_singleton.mpr rfl⟩
  exponent := none

/-- The number `1e5`. -/
def tenThousands : Numeral where
  negative := false
  whole := ⟨['1'], nofun, List.forall_mem_singleton.mpr rfl⟩
  lead := nofun
  fraction := none
  exponent := some {
    capital := false
    sign := none
    digits := ⟨['5'], nofun, List.forall_mem_singleton.mpr rfl⟩ }

theorem load_json_oneAndHalf :
    outcome (load (diskWithNumber oneAndHalf) ⟨false, ["a.json"]⟩) =
      validate (documentWithNumber oneAndHalf) [] :=
  (load_json (x := withNumber oneAndHalf) rfl rfl (by decide) (withNumber oneAndHalf).read?_chars
    rfl rfl).1

/-- Not every JSON text says what its value says: `1e5` is a number in JSON, and it is read as a
text. -/
theorem not_forall_load_json :
    ¬ ∀ (disk : Disk) (path : FilePath) (bytes : List UInt8) (x : Source) (entries : Entries)
      (document : Value) (routers : List Value),
      disk.read path = .ok bytes → Text.decode bytes = .ok x.chars →
      Json.read? (.ofList x.chars) = some (.map .none entries) →
      Entries.get? entries "document" = some document →
      Entries.get? entries "routers" = some (.listOf routers) →
      outcome (load disk path) = validate document routers := by
  intro h
  have hsame :=
    h (diskWithNumber tenThousands) ⟨false, ["a.json"]⟩ _ (withNumber tenThousands) _ _ _ rfl rfl
      (withNumber tenThousands).read?_chars rfl rfl
  have htypes := congrArg (fun r => r.toOption.map fun f => f.config.info.map (·.2.typeName)) hsame
  exact absurd htypes (by decide +kernel)

end RouteFile

end ApiDoc
