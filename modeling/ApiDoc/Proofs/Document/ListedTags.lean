import ApiDoc.Proofs.Document.Identifiers
import ApiDoc.Proofs.Document.Positions
import ApiDoc.Proofs.Document.Tags
import ApiDoc.Proofs.Validation.Written

/-!
# Tags that a document lists

A finished document lists the configured tags and, behind them, a tag for each name that a route
uses and no configured tag has: each name once, in the order in which the routes use them first
(`Document.ListsTags`).

**Order.** The new names are the first occurrences among the names that are left when the configured
ones are taken out. Taking names out does not change which of two others comes first, so the order
is that of the first uses in the whole list (`pairwise_idxOf_eraseDups_filter`).

**Coverage.** An operation of the document is that of some route and has its tags, also when it
replaced the operation of an earlier one. So each of its tags is among the names that are used, and
is listed, as a configured tag or as a new one.

**Configured tags.** They are read from the configuration one by one, and each stays what is given
for it (`Value.GivesTag`).

Main statement: `Api.tags_of_generate`.
-/

namespace ApiDoc

open Checked (valid)

/-! ## First uses -/

/-- First occurrences among the items with a property come in the order of first occurrences among
all. -/
theorem pairwise_idxOf_eraseDups_filter {α : Type} [BEq α] [LawfulBEq α] (p : α → Bool)
    (xs : List α) :
    (xs.filter p).eraseDups.Pairwise fun a b => xs.idxOf a < xs.idxOf b := by
  induction xs using List.reverseRecOn with
  | nil => simp
  | append_singleton xs x ih =>
    -- Items of the front have their places there.
    have hfront {a : α} (ha : a ∈ (xs.filter p).eraseDups) : a ∈ xs :=
      List.mem_of_mem_filter (List.mem_eraseDups.mp ha)
    have hold : (xs.filter p).eraseDups.Pairwise fun a b => (xs ++ [x]).idxOf a <
        (xs ++ [x]).idxOf b := by
      refine ih.imp_of_mem fun ha hb hab => ?_
      rwa [List.idxOf_append_of_mem (hfront ha), List.idxOf_append_of_mem (hfront hb)]
    rw [List.filter_append]
    by_cases hx : p x
    · rw [List.filter_cons_of_pos hx, List.filter_nil, eraseDups_concat]
      by_cases hmem : x ∈ xs.filter p
      · rwa [if_pos hmem]
      · rw [if_neg hmem, List.pairwise_append]
        refine ⟨hold, List.pairwise_singleton _ _, ?_⟩
        intro a ha b hb
        obtain rfl := List.mem_singleton.mp hb
        have hnew : b ∉ xs := fun h => hmem (List.mem_filter.mpr ⟨h, hx⟩)
        rw [List.idxOf_append_of_mem (hfront ha), List.idxOf_append_of_notMem hnew]
        exact Nat.lt_add_right _ (List.idxOf_lt_length_of_mem (hfront ha))
    · rwa [List.filter_cons_of_neg hx, List.filter_nil, List.append_nil]

/-! ## Configured tags -/

namespace Value

variable {v : Value} {tag : List (String × Value)}

/-- A tag is what a value gives: a name alone is a mapping with this name, and a mapping is kept
entry by entry. -/
structure GivesTag (v : Value) (tag : List (String × Value)) : Prop where
  of_name : ∀ name, v = .str name → tag = Document.nameTag name
  of_mapping : ∀ m : List (String × Value), (m.map (·.1)).Nodup →
    v.entries? = some (m.map fun e => (.str e.1, e.2)) → tag = m

/-- The tags that a configuration gives, one by one. -/
def givenTags (v : Value) : List Value := ((v.at? ["tags"]).bind (·.items?)).getD []

theorem entries_of_mappingOf (h : Checked.mappingOf Checked.any v = valid tag)
    {m : List (String × Value)} (hm : (m.map (·.1)).Nodup)
    (hes : v.entries? = some (m.map fun e => (.str e.1, e.2))) : tag = m := by
  have hread : Checked.namedEntries Checked.any (m.map fun e => (.str e.1, e.2)) = valid m := by
    show Checked.namedEntries Checked.any (m.map fun e => (.str e.1, id e.2)) = valid m
    exact Checked.namedEntries_map fun _ _ => rfl
  rw [Checked.mappingOf, hes] at h
  dsimp only at h
  rw [hread] at h
  obtain ⟨es, hes, rfl⟩ := Checked.map_eq_valid.mp h
  cases hes
  exact foldl_putNamed_nil hm

theorem givesTag_of_mappingOf (h : Checked.mappingOf Checked.any v = valid tag) :
    v.GivesTag tag := by
  refine ⟨?_, fun m hm hes => entries_of_mappingOf h hm hes⟩
  rintro name rfl
  cases h

theorem givesTag_of_expandTag
    (h : Checked.mappingOf Checked.any (DocumentConfig.expandTag v) = valid tag) :
    v.GivesTag tag := by
  cases v with
  | str name =>
    refine ⟨?_, fun m _ hes => by cases hes⟩
    intro name' hname
    obtain rfl := Value.str.inj hname
    exact entries_of_mappingOf h (by simp [Document.nameTag]) rfl
  | _ => exact givesTag_of_mappingOf h

end Value

/-- Items that are read one by one are related to what is read. -/
theorem Checked.forall₂_of_map_read {α β : Type} {R : α → β → Prop} {read : α → Checked β}
    {as : List α} {bs : List β} (h : as.map read = bs.map valid)
    (hR : ∀ a b, read a = valid b → R a b) :
    List.Forall₂ R as bs := by
  rw [← List.forall₂_eq_eq_eq, List.forall₂_map_left_iff, List.forall₂_map_right_iff] at h
  exact h.imp hR

namespace DocumentConfig

variable {v : Value} {config : DocumentConfig}

theorem givesTags_of_readTags {w : Value} {tags : List (List (String × Value))}
    (h : readTags w = valid tags) :
    List.Forall₂ Value.GivesTag (w.items?.getD []) tags := by
  unfold readTags expandTags Checked.listOf at h
  cases hlist : w.listItems? with
  | some items =>
    have hitems : w.items? = some items := by
      cases w <;> first | exact hlist | cases hlist
    rw [hlist] at h
    have hread := Checked.map_read_of_itemsFrom h
    rw [List.map_map] at hread
    rw [hitems, Option.getD_some]
    exact Checked.forall₂_of_map_read hread fun _ _ => Value.givesTag_of_expandTag
  | none =>
    -- Items of a tuple or a set are mappings themselves.
    rw [hlist] at h
    dsimp only at h
    cases hitems : w.items? with
    | none =>
      rw [hitems] at h
      cases h
    | some items =>
      rw [hitems] at h
      exact Checked.forall₂_of_map_read (Checked.map_read_of_itemsFrom h) fun _ _ =>
        Value.givesTag_of_mappingOf

/-- **Configured tags** are what the configuration gives, in order. -/
theorem givesTags_of_ofValue (h : ofValue v = .ok config) :
    List.Forall₂ Value.GivesTag v.givenTags config.tags := by
  have hread : read v = valid config := Checked.toExcept_eq_ok_iff.mp h
  suffices (read v).Ensures fun config =>
      List.Forall₂ Value.GivesTag v.givenTags config.tags from this _ hread
  unfold read
  cases hes : v.entries? with
  | none => exact Checked.ensures_issue _ _
  | some es =>
    have htags : (Checked.fieldOr [] es ["tags"] readTags).Ensures
        fun tags => List.Forall₂ Value.GivesTag v.givenTags tags := by
      intro tags h
      unfold Value.givenTags
      obtain ⟨hnone, rfl⟩ | ⟨w, hw, hread⟩ := (Checked.fieldOr_eq_valid hes).mp h
      · rw [hnone]
        exact .nil
      · rw [hw, Option.bind_some]
        exact givesTags_of_readTags hread
    -- The other fields are read beside the tags and say nothing about them.
    refine .skip (.seq htags (.skip (.skip (.skip (.map ?_)))))
    exact fun _ _ _ _ _ _ h _ => h

end DocumentConfig

/-! ## Tags in documents -/

namespace Value

/-- An operation under the paths of a document has a tag. -/
def UsesTag (doc : Value) (name : String) : Prop :=
  ∃ ps path item method op ts, doc.Has "paths" ps ∧ ps.Has path item ∧ item.Has method op ∧
    op.Has "tags" ts ∧ ts.Lists (.str name)

/-- A document lists a tag with a name. -/
def ListsTag (doc : Value) (name : String) : Prop :=
  ∃ ts tag, doc.Has "tags" ts ∧ ts.Lists tag ∧ tag.Has "name" (.str name)

end Value

namespace Operation

variable {v : Value}

theorem name_of_mem_textEntry {name key : String} {text : Option String}
    (h : (key, v) ∈ textEntry name text) :
    key = name := by
  cases text with
  | none => cases h
  | some s => exact (Prod.mk.inj (List.mem_singleton.mp h)).1

theorem tags_of_has {o : Operation} {at_ : Place} (h : (o.toValueAt at_).Has "tags" v) :
    v = .strings o.info.tags := by
  have htext {name : String} {text : Option String} (hname : "tags" ≠ name) :
      ("tags", v) ∉ textEntry name text := fun hmem => hname (name_of_mem_textEntry hmem)
  rw [toValueAt, Value.has_object] at h
  simp only [List.mem_append] at h
  -- Only the first entry can have this name.
  rcases h with (((((h | h) | h) | h) | h) | h) | h
  · split at h
    · cases h
    · exact (Prod.mk.inj (List.mem_singleton.mp h)).2
  · exact absurd h (htext (by decide))
  · exact absurd h (htext (by decide))
  · exact absurd h (htext (by decide))
  · cases hdeprecated : o.info.deprecated <;> simp [hdeprecated] at h
  · cases hconsumes : o.consumes <;> simp [hconsumes] at h
  · simp at h

end Operation

namespace Document

variable {d : Document} {v : Value}

theorem has_tags : d.toValue.Has "tags" v ↔ v = .listOf (d.tags.map .object) :=
  has_of_mem_fields (by simp [fields]) (by simp [fields])

/-- What a document lists as its tags when some are configured and names are used one after the
other. -/
structure ListsTags (d : Document) (configured : List (List (String × Value)))
    (used added : List String) :
    Prop where
  tags : d.tags = configured ++ added.map nameTag
  written : ∀ v, d.toValue.Has "tags" v ↔ v = .listOf (d.tags.map .object)
  mem_iff : ∀ name, name ∈ added ↔
    name ∈ used ∧ ∀ tag ∈ configured, getNamed? "name" tag ≠ some (.str name)
  nodup : added.Nodup
  order : added.Pairwise fun a b => used.idxOf a < used.idxOf b

namespace ListsTags

variable {configured : List (List (String × Value))} {used added : List String} {name : String}

/-- Every name that is used is listed. -/
theorem listsTag (h : d.ListsTags configured used added) (hname : name ∈ used) :
    d.toValue.ListsTag name := by
  suffices ∃ tag ∈ d.tags, ("name", .str name) ∈ tag by
    obtain ⟨tag, htag, hmem⟩ := this
    exact ⟨_, .object tag, (h.written _).mpr rfl, Value.lists_list.mpr (List.mem_map_of_mem htag),
      Value.has_object.mpr hmem⟩
  rw [h.tags]
  by_cases hnew : name ∈ added
  · refine ⟨nameTag name, List.mem_append_right _ (List.mem_map_of_mem hnew), ?_⟩
    exact List.mem_singleton_self _
  · -- A name that is not new is that of a configured tag.
    have hconfigured : ∃ tag ∈ configured, getNamed? "name" tag = some (.str name) := by
      by_contra hno
      exact hnew ((h.mem_iff name).mpr ⟨hname, fun tag htag heq => hno ⟨tag, htag, heq⟩⟩)
    obtain ⟨tag, htag, hget⟩ := hconfigured
    exact ⟨tag, List.mem_append_left _ htag, mem_of_getNamed? hget⟩

end ListsTags

end Document

theorem Work.listsTags_of_draft {config : DocumentConfig} {options : Options} {routes : List Route}
    {d : Document} {s s' : Session} (h : Run (draft config options routes) s d s') :
    d.ListsTags config.tags (routes.flatMap (·.info.tags)) (newTags config routes) where
  tags := tags_of_draft h
  written _ := Document.has_tags
  mem_iff name := by
    rw [mem_newTags, List.mem_flatMap, Bool.eq_false_iff, ne_eq, DocumentConfig.hasTag_iff]
    simp
  nodup := nodup_newTags config routes
  order := pairwise_idxOf_eraseDups_filter _ _

/-! ## Finished documents -/

namespace Api

variable {config : DocumentConfig} {options : Options} {routes : List Route} {d : Document}
  {notices : List Notice} {name : String}

/-- A tag of an operation of a finished document is one of a route. -/
theorem mem_tags_of_usesTag (h : (Api.mk routes).generate config options = (.ok d, notices))
    (huses : d.toValue.UsesTag name) : name ∈ routes.flatMap (·.info.tags) := by
  obtain ⟨ps, path, item, method, op, ts, hps, hitem, hop, hts, hname⟩ := huses
  rw [Document.has_paths.mp hps] at hitem
  obtain ⟨⟨path', methods⟩, hmethods, heq⟩ := List.mem_map.mp (Value.has_object.mp hitem)
  obtain ⟨rfl, rfl⟩ := Prod.mk.inj heq
  obtain ⟨⟨method', o⟩, ho, heq⟩ := List.mem_map.mp (Value.has_object.mp hop)
  obtain ⟨rfl, rfl⟩ := Prod.mk.inj heq
  have hmem := Document.mem_operations.mpr ⟨methods, hmethods, ho⟩
  obtain ⟨r, hlast, hr⟩ := (mem_operations_iff (congrArg Prod.fst h)).mp hmem
  obtain ⟨_, _, _, _, -, -, -, rfl⟩ := Work.run_operation (Prod.ext hr rfl)
  rw [Operation.tags_of_has hts] at hname
  obtain ⟨tag, htag, heq⟩ := List.mem_map.mp (Value.lists_list.mp hname)
  obtain rfl := Value.str.inj heq
  exact List.mem_flatMap.mpr ⟨r, hlast.mem, htag⟩

/-- **The tags of a finished document** are the configured ones, as they are given, and behind them
those that the routes add, each once and in the order of first use. Every tag of an operation is
among them. -/
theorem tags_of_generate (h : (Api.mk routes).generate config options = (.ok d, notices)) :
    (∃ added, d.ListsTags config.tags (routes.flatMap (·.info.tags)) added) ∧
    (∀ v, DocumentConfig.ofValue v = .ok config →
      List.Forall₂ Value.GivesTag v.givenTags config.tags) ∧
    ∀ name, d.toValue.UsesTag name → d.toValue.ListsTag name := by
  obtain ⟨t, hdraft, -, -⟩ := draft_of_generate h
  have hlists := Work.listsTags_of_draft hdraft
  refine ⟨⟨_, hlists⟩, fun v => DocumentConfig.givesTags_of_ofValue, ?_⟩
  intro name huses
  exact hlists.listsTag (mem_tags_of_usesTag h huses)

namespace Sample

/-- A configuration with a tag that is a name, given twice, and one without a name. -/
def tagged : Value :=
  .object [("info", .object []), ("basePath", .str "/"),
    ("tags", .listOf [.str "pets", .object [("description", .str "rest")], .str "pets"])]

/-- Routes of which the second replaces the first and the last uses tags that are known. -/
def tagging : List Route :=
  [{ method := .get, path := "/a", info := { tags := ["new", "pets"] } },
    { method := .get, path := "/a", info := { tags := ["late"] } },
    { method := .get, path := "/b", info := { tags := ["late", "new"] } }]

end Sample

theorem tags_of_generate_sample :
    ∃ config d notices, DocumentConfig.ofValue Sample.tagged = .ok config ∧
      (Api.mk Sample.tagging).generate config {} = (.ok d, notices) ∧
      List.Forall₂ Value.GivesTag Sample.tagged.givenTags config.tags ∧
      (∃ added, d.ListsTags config.tags ["new", "pets", "late", "late", "new"] added) ∧
      d.tags = config.tags ++ [Document.nameTag "new", Document.nameTag "late"] := by
  have h : ∃ config d notices, DocumentConfig.ofValue Sample.tagged = .ok config ∧
      (Api.mk Sample.tagging).generate config {} = (.ok d, notices) ∧
      d.tags = config.tags ++ [Document.nameTag "new", Document.nameTag "late"] :=
    ⟨_, _, _, rfl, rfl, rfl⟩
  obtain ⟨config, d, notices, hconfig, hd, htags⟩ := h
  obtain ⟨hlists, hgiven, -⟩ := tags_of_generate hd
  exact ⟨config, d, notices, hconfig, hd, hgiven _ hconfig, hlists, htags⟩

end Api

end ApiDoc
