import ApiDoc.Proofs.Document.Draft
import ApiDoc.Proofs.Validation.Checked

/-!
# Tags of documents

A document has the configured tags, and after them one tag for each new name among the tags of its
routes. A name is new when no configured tag has it and no route before has used it. So the tags
that are added are the first occurrences in a list that is read off the routes (`Work.newTags`).

Main statement: `Work.tags_of_draft`.
-/

namespace ApiDoc

/-- A tag of which nothing but the name is known. -/
def Document.nameTag (name : String) : List (String × Value) := [("name", .str name)]

def DocumentConfig.hasTag (config : DocumentConfig) (name : String) : Bool :=
  config.tags.any fun tag => ((getNamed? "name" tag).getD .null).sameKey (.str name)

theorem Value.sameKey_str_iff {v : Value} {s : String} : v.sameKey (.str s) ↔ v = .str s := by
  cases v <;> simp [sameKey, asNumber?]

theorem DocumentConfig.hasTag_iff {config : DocumentConfig} {name : String} :
    config.hasTag name ↔ ∃ tag ∈ config.tags, getNamed? "name" tag = some (.str name) := by
  simp only [hasTag, List.any_eq_true, Value.sameKey_str_iff]
  refine exists_congr fun tag => and_congr_right fun _ => ?_
  cases getNamed? "name" tag <;> simp

namespace Work

variable {s s' : Session} {config : DocumentConfig} {options : Options} {routes : List Route}

/-! ## New names -/

theorem newNames_eq (known : List Value) (names : List String) :
    newNames known names =
      (names.filter fun name => !known.any (·.sameKey (.str name))).eraseDups := by
  induction names generalizing known with
  | nil => rfl
  | cons name names ih =>
    rw [newNames]
    split
    · rename_i hknown
      rw [ih, List.filter_cons_of_neg (by simpa using hknown)]
    · rename_i hnew
      rw [ih, List.filter_cons_of_pos (by simpa using hnew), List.eraseDups_cons,
        List.filter_filter]
      congr 2
      refine List.filter_congr fun other _ => ?_
      have hname : (Value.str name).sameKey (.str other) = (name == other) := rfl
      rw [List.any_cons, hname, Bool.not_or, BEq.comm]

theorem names_of_tagNames {tags : List (List (String × Value))} {known : List Value}
    (h : tags.mapM tagName = .ok known) :
    known = tags.map fun tag => (getNamed? "name" tag).getD .null := by
  have hrounds := mapM_eq_ok_iff.mp h
  clear h
  induction hrounds with
  | nil => rfl
  | cons hname _ ih =>
    -- A name is kept as it stands, unless it cannot be hashed.
    unfold tagName at hname
    dsimp only at hname
    split at hname
    · cases hname
    · rw [List.map_cons, ← ih, Except.ok.inj hname]

/-! ## Tags of a draft -/

/-- The names of the tags that routes add to the configured ones. -/
def newTags (config : DocumentConfig) (routes : List Route) : List String :=
  ((routes.flatMap (·.info.tags)).filter fun name => !config.hasTag name).eraseDups

theorem mem_newTags {name : String} :
    name ∈ newTags config routes ↔
    (∃ r ∈ routes, name ∈ r.info.tags) ∧ config.hasTag name = false := by
  simp [newTags, List.mem_eraseDups]

theorem nodup_newTags (config : DocumentConfig) (routes : List Route) :
    (newTags config routes).Nodup := nodup_eraseDups _

/-- After the rounds the tags of all routes are known, in order. -/
theorem tags_of_rounds {defaults : List (String × Output)} {known : Paths}
    (h : Run (routes.foldlM (addRoute defaults) {}) s known s') :
    known.tags = routes.flatMap (·.info.tags) := by
  refine run_foldlM (fun done known _ => known.tags = done.flatMap (·.info.tags))
    (fun done r c t c' t' hc hx => ?_) rfl h
  obtain ⟨o, _, ho, rfl, -⟩ := run_addRoute hx
  obtain ⟨ps, _, rs, _, -, -, -, rfl⟩ := run_operation ho
  rw [List.flatMap_append, List.flatMap_singleton, ← hc]
  rfl

/-- **The tags of a draft** are the configured ones and, after them, those that the routes add. -/
theorem tags_of_draft {d : Document} (h : Run (draft config options routes) s d s') :
    d.tags = config.tags ++ (newTags config routes).map Document.nameTag := by
  obtain ⟨defs, t, known, tags, -, hknown, htags, rfl⟩ := run_draft h
  unfold mergeTags at htags
  cases hnames : config.tags.mapM tagName with
  | error f =>
    rw [hnames] at htags
    cases htags
  | ok names =>
    rw [hnames] at htags
    obtain rfl := Except.ok.inj htags
    rw [newNames_eq, tags_of_rounds hknown, names_of_tagNames hnames]
    simp only [List.any_map]
    rfl

end Work

end ApiDoc
