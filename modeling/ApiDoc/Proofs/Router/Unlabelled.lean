import ApiDoc.Proofs.Schema.Unlabelled
import ApiDoc.RouteFile

/-!
# Route files without labels

A tree is read as the same router, the same configuration and the same route file with its labels
and without them, up to the labels of the values in it. When it cannot be read it is for the same
reason, with the same message.

Main statement: `RouteFile.ofValue_unlabelled`.
-/

namespace ApiDoc

open Value Checked

/-! ## What is read, without labels -/

/-- A declared response whose values are without labels. -/
def Output.unlabelled (o : Output) : Output :=
  { o with body := o.body.map Node.unlabelled, headers := o.headers.map Node.unlabelled }

/-- A request whose values are without labels. -/
def RequestSpec.unlabelled (r : RequestSpec) : RequestSpec :=
  { r with
    body := r.body.map Node.unlabelled
    query := r.query.map Node.unlabelled
    params := r.params.map Node.unlabelled
    headers := r.headers.map Node.unlabelled
    output := mapNamed Output.unlabelled r.output }

/-- A record whose values are without labels. -/
def RouteRecord.unlabelled (r : RouteRecord) : RouteRecord :=
  { r with
    request := r.request.map RequestSpec.unlabelled
    output := mapNamed Output.unlabelled r.output }

/-- A router whose values are without labels. -/
def Router.unlabelled (r : Router) : Router :=
  { r with records := r.records.map RouteRecord.unlabelled }

/-- A configuration whose values are without labels. -/
def DocumentConfig.unlabelled (c : DocumentConfig) : DocumentConfig :=
  { c with
    info := mapNamed Value.unlabelled c.info
    definitions := mapNamed Node.unlabelled c.definitions
    tags := c.tags.map (mapNamed Value.unlabelled)
    extra := mapNamed Value.unlabelled c.extra }

/-- A route file whose values are without labels. -/
def RouteFile.unlabelled (f : RouteFile) : RouteFile :=
  { config := f.config.unlabelled, routers := f.routers.map Router.unlabelled }

/-- A failure whose values are without labels. -/
def Error.unlabelled : Error → Error
  | invalid part first rest => invalid part first.unlabelled (rest.map Issue.unlabelled)
  | e => e

/-- A failure of a route file whose values are without labels. -/
def Failure.unlabelled : Failure → Failure
  | content e => content e.unlabelled
  | e => e

/-- The message of a failure says nothing about labels. -/
theorem Error.message_unlabelled (e : Error) : e.unlabelled.message = e.message := by
  cases e with
  | invalid part first rest =>
    exact congrArg (part.headline ++ "\n" ++ ·) (Issue.report_unlabelled part.model (first :: rest))
  | _ => rfl

theorem Failure.message_unlabelled (e : Failure) : e.unlabelled.message = e.message := by
  cases e with
  | content e => exact e.message_unlabelled
  | _ => rfl

/-! ## Going through values -/

variable {path : List Label} {v : Value}

theorem Value.qualifiedTypeName_unlabelled (v : Value) :
    v.unlabelled.qualifiedTypeName = v.qualifiedTypeName := by
  cases v with
  | number n => cases n <;> rfl
  | again l ofMap => cases ofMap <;> rfl
  | _ => rfl

/-- Going through a tree with its labels and without. -/
theorem Value.IsTree.iterate?_unlabelled (h : v.IsTree path) :
    v.unlabelled.iterate? = v.iterate?.map unlabelledItems := by
  have hitems := h.items?_unlabelled
  unfold Value.iterate?
  rw [hitems]
  cases v with
  | list l items =>
    rw [items?_list h]
    rfl
  | map l es =>
    have hkeys : (unlabelledEntries es).map (·.1) = unlabelledItems (es.map (·.1)) := by
      clear h hitems
      induction es with
      | nil => rfl
      | cons e es ih => exact congrArg (e.1.unlabelled :: ·) ih
    exact congrArg Except.ok hkeys
  | str s =>
    have hchars : unlabelledItems (s.toList.map fun c => .str (.ofList [c])) =
        s.toList.map fun c => .str (.ofList [c]) := by
      rw [unlabelledItems_eq, List.map_map]
      rfl
    exact congrArg Except.ok hchars.symm
  | null | bool | number =>
    exact congrArg (Except.error ∘ Fault.notIterable) (qualifiedTypeName_unlabelled _)
  | _ => cases h

theorem Value.IsTree.isTree_of_mem_iterate? (h : v.IsTree path) {items : List Value}
    (hv : v.iterate? = .ok items) :
    ∀ w ∈ items, w.IsTree path := by
  cases v with
  | list l items' =>
    unfold Value.iterate? at hv
    rw [items?_list h] at hv
    obtain rfl : items' = items := Except.ok.inj hv
    exact fun w hw => (h.isTree_of_mem_items (items?_list h) w hw).of_cons
  | map l es =>
    obtain rfl : es.map (·.1) = items := Except.ok.inj hv
    intro w hw
    obtain ⟨e, he, rfl⟩ := List.mem_map.mp hw
    obtain ⟨⟨s, hs⟩, -⟩ := h.areTrees (entries?_map h) e he
    rw [hs]
    exact .str s
  | str s =>
    obtain rfl : s.toList.map (fun c => Value.str (.ofList [c])) = items := Except.ok.inj hv
    intro w hw
    obtain ⟨c, -, rfl⟩ := List.mem_map.mp hw
    exact .str _
  | null | bool | number => cases hv
  | _ => cases h

/-- The names of the entries of a tree are texts already. -/
theorem Value.IsTree.withTextKeys_eq (h : v.IsTree path) :
    v.withTextKeys = match v.entries? with
      | some es => .map .none (Entries.ofList es)
      | none => v := by
  unfold Value.withTextKeys
  cases hentries : v.entries? with
  | none => rfl
  | some es =>
    have hes := h.areTrees hentries
    refine congrArg (fun es => Value.map .none (Entries.ofList es))
      ((List.map_congr_left fun e he => ?_).trans (List.map_id es))
    obtain ⟨⟨s, hs⟩, -⟩ := hes e he
    obtain ⟨k, w⟩ := e
    obtain rfl : k = .str s := hs
    rfl

theorem Value.IsTree.withTextKeys_unlabelled (h : v.IsTree path) :
    v.unlabelled.withTextKeys = v.withTextKeys.unlabelled := by
  have hwithout : v.unlabelled.IsTree path := isTree_unlabelled h
  rw [h.withTextKeys_eq, hwithout.withTextKeys_eq, h.entries?_unlabelled]
  cases hentries : v.entries? with
  | none => rfl
  | some es => exact congrArg (Value.map .none) (h.areTrees hentries).ofList.2

theorem Value.IsTree.withTextKeys (h : v.IsTree path) : v.withTextKeys.IsTree path := by
  rw [h.withTextKeys_eq]
  cases hentries : v.entries? with
  | none => exact h
  | some es =>
    have hes := (h.areTrees hentries).ofList.1
    exact .map (fun _ => rfl) (fun e he => (hes e he).1) fun e he => (hes e he).2.of_cons.cons_none

/-! ## Routers -/

/-- The information about a route is in the same place with labels and without. -/
theorem RouteInfo.unwrap_unlabelled (h : v.IsTree path) :
    unwrap v.unlabelled = (unwrap v).unlabelled := by
  unfold unwrap
  rw [h.entries?_unlabelled]
  cases v.entries? with
  | none => rfl
  | some es =>
    rw [Option.map_some, Option.bind_some, Option.bind_some, Entries.get?_unlabelled]
    cases Entries.get? es "swagger" with
    | none => rfl
    | some w => cases w <;> rfl

theorem RouteInfo.isTree_unwrap (h : v.IsTree path) : (unwrap v).IsTree path := by
  unfold unwrap
  split
  · rename_i hswagger
    obtain ⟨es, hentries, hget⟩ := Option.bind_eq_some_iff.mp hswagger
    exact ((h.areTrees hentries).of_get? hget).of_cons
  · exact h

theorem RouteInfo.alike_read : Alike path Eq read read := by
  intro v hv
  have hinfo := RouteInfo.isTree_unwrap hv
  unfold read
  rw [RouteInfo.unwrap_unlabelled hv]
  dsimp only
  rw [hinfo.entries?_unlabelled]
  cases hentries : (unwrap v).entries? with
  | none => exact agrees_issue ..
  | some es =>
    have hes := hinfo.areTrees hentries
    have htext : Alike ((unwrap v).label :: path) Eq (optional text) (optional text) :=
      alike_text.optional_eq
    refine Agrees.map (htext.fieldOr hes rfl _) ?_
      |>.seq (htext.fieldOr hes rfl _)
      |>.seq (alike_text.listOf_eq.fieldOr hes rfl _)
      |>.seq (htext.fieldOr hes rfl _)
      |>.seq (alike_bool.optional_eq.fieldOr hes rfl _)
      |>.seq (alike_bool.fieldOr hes rfl _)
    rintro summary _ rfl description _ rfl tags _ rfl operationId _ rfl deprecated _ rfl
      ignore _ rfl
    rfl

theorem Output.alike_read : Alike path (IsImage unlabelled) read read := by
  intro v hv
  unfold read
  rw [hv.entries?_unlabelled]
  cases hentries : v.entries? with
  | none => exact agrees_issue ..
  | some es =>
    have hes := hv.areTrees hentries
    refine Agrees.map (Node.alike_read.optional_map.fieldOr hes rfl _) ?_
      |>.seq (alike_text.optional_eq.fieldOr hes rfl _)
      |>.seq (alike_text.optional_eq.fieldOr hes rfl _)
      |>.seq (Node.alike_read.optional_map.fieldOr hes rfl _)
    rintro body _ rfl ref _ rfl description _ rfl headers _ rfl
    rfl

theorem Output.alike_readNamed :
    Alike path (IsImage (mapNamed unlabelled)) readNamed readNamed := by
  intro v hv
  unfold readNamed
  rw [hv.withTextKeys_unlabelled]
  exact Output.alike_read.mappingOf _ hv.withTextKeys

theorem ContentType.alike_read : Alike path Eq read read := by
  intro v hv
  refine (alike_text v hv).andThen ?_
  rintro s _ rfl
  split
  · exact .valid rfl
  · exact agrees_issue ..

theorem RequestSpec.alike_read : Alike path (IsImage unlabelled) read read := by
  intro v hv
  unfold read
  rw [hv.entries?_unlabelled]
  cases hentries : v.entries? with
  | none => exact agrees_issue ..
  | some es =>
    have hes := hv.areTrees hentries
    refine Agrees.map (ContentType.alike_read.optional_eq.fieldOr hes rfl _) ?_
      |>.seq (Node.alike_read.optional_map.fieldOr hes rfl _)
      |>.seq (Node.alike_read.optional_map.fieldOr hes rfl _)
      |>.seq (Node.alike_read.optional_map.fieldOr hes rfl _)
      |>.seq (Node.alike_read.optional_map.fieldOr hes rfl _)
      |>.seq (alike_text.optional_eq.fieldOr hes rfl _)
      |>.seq (Output.alike_readNamed.fieldOr hes rfl _)
    rintro contentType _ rfl body _ rfl query _ rfl params _ rfl headers _ rfl ref _ rfl output _
      rfl
    rfl

/-- Names of methods are texts, which have no labels. -/
theorem Method.lowerNames_unlabelled (h : v.IsTree path) :
    lowerNames v.unlabelled = lowerNames v := by
  have hcodes : v.unlabelled.codes? = v.codes? := by cases v <;> rfl
  -- A value without a lower case is reported by its type, which does not depend on labels.
  have hname {w : Value} (hw : w.IsTree path) : lowerName w.unlabelled = lowerName w := by
    cases w with
    | str s => rfl
    | null | bool | number | list | map =>
      exact congrArg (fun name => Except.error (Fault.noPart name "lower"))
        (qualifiedTypeName_unlabelled _)
    | _ => cases hw
  have hnames {items : List Value} (hitems : ∀ w ∈ items, w.IsTree path) :
      (unlabelledItems items).mapM lowerName = items.mapM lowerName := by
    induction items with
    | nil => rfl
    | cons w ws ih =>
      obtain ⟨hw, hws⟩ := List.forall_mem_cons.mp hitems
      rw [unlabelledItems, List.mapM_cons, List.mapM_cons, hname hw, ih hws]
  unfold lowerNames
  rw [hcodes, h.iterate?_unlabelled]
  cases v.codes? with
  | some codes => exact hnames (List.forall_mem_singleton.mpr h)
  | none =>
    cases hitems : v.iterate? with
    | error f => rfl
    | ok items => exact hnames (h.isTree_of_mem_iterate? hitems)

theorem Method.alike_readAll : Alike path Eq readAll readAll := by
  intro v hv
  unfold readAll
  rw [lowerNames_unlabelled hv]
  cases lowerNames v with
  | error f => exact .aborted f
  | ok names =>
    dsimp only
    split
    · split
      · exact agrees_issue ..
      · exact .valid rfl
    · split
      · exact .aborted _
      · unfold unknownNames
        dsimp only
        split
        · exact .aborted _
        · exact agrees_issue ..

theorem RouteRecord.alike_read : Alike path (IsImage unlabelled) read read := by
  intro v hv
  unfold read
  rw [hv.entries?_unlabelled]
  cases hentries : v.entries? with
  | none => exact agrees_issue ..
  | some es =>
    have hes := hv.areTrees hentries
    refine Agrees.map (Method.alike_readAll.field hes v _) ?_
      |>.seq (alike_text.field hes v _)
      |>.seq (RouteInfo.alike_read.fieldOr hes rfl _)
      |>.seq (RequestSpec.alike_read.optional_map.fieldOr hes rfl _)
      |>.seq (Output.alike_readNamed.fieldOr hes rfl _)
    rintro methods _ rfl path _ rfl info _ rfl request _ rfl output _ rfl
    rfl

theorem Router.alike_read : Alike path (IsImage unlabelled) read read := by
  intro v hv
  unfold read
  rw [hv.entries?_unlabelled]
  cases hentries : v.entries? with
  | none => exact agrees_issue ..
  | some es =>
    have hes := hv.areTrees hentries
    refine Agrees.map (alike_text.optional_eq.fieldOr hes rfl _) ?_
      |>.seq (RouteRecord.alike_read.listOf.fieldOr hes rfl _)
    rintro mount _ rfl records _ rfl
    rfl

/-! ## Configurations -/

theorem DocumentConfig.expandTag_unlabelled (v : Value) :
    expandTag v.unlabelled = (expandTag v).unlabelled := by
  cases v <;> rfl

theorem DocumentConfig.isTree_expandTag (h : v.IsTree path) : (expandTag v).IsTree path := by
  cases h with
  | str s =>
    refine .map (fun _ => rfl) ?_ ?_
    · exact List.forall_mem_singleton.mpr ⟨"name", rfl⟩
    · exact List.forall_mem_singleton.mpr (.str s)
  | null => exact .null
  | bool b => exact .bool b
  | number n => exact .number n
  | list hnew hitems => exact .list hnew hitems
  | map hnew hkeys hvalues => exact .map hnew hkeys hvalues

/-- Tags that are only names become mappings, which have no labels. -/
theorem DocumentConfig.expandTags_eq (h : v.IsTree path) :
    expandTags v = match v.items? with
      | some items => .listOf (items.map expandTag)
      | none => v := by
  cases v <;> first | rfl | cases h

theorem DocumentConfig.alike_readTags :
    Alike path (IsImage (List.map (mapNamed Value.unlabelled))) readTags readTags := by
  intro v hv
  have hwithout : v.unlabelled.IsTree path := isTree_unlabelled hv
  have htags : expandTags v.unlabelled = (expandTags v).unlabelled := by
    rw [expandTags_eq hv, expandTags_eq hwithout, hv.items?_unlabelled]
    cases v.items? with
    | none => rfl
    | some items =>
      refine congrArg Value.listOf ?_
      rw [unlabelledItems_eq, unlabelledItems_eq, List.map_map, List.map_map]
      exact List.map_congr_left fun w _ => expandTag_unlabelled w
  -- The expanded tags are new mappings around parts of the tree, hence a tree again.
  have htree : (expandTags v).IsTree path := by
    rw [expandTags_eq hv]
    cases hitems : v.items? with
    | none => exact hv
    | some items =>
      refine .list (fun _ => rfl) fun w hw => ?_
      obtain ⟨u, hu, rfl⟩ := List.mem_map.mp hw
      exact isTree_expandTag (hv.isTree_of_mem_items hitems u hu).of_cons.cons_none
  unfold readTags
  rw [htags]
  exact alike_any.mappingOf.listOf _ htree

theorem DocumentConfig.alike_read : Alike path (IsImage unlabelled) read read := by
  intro v hv
  unfold read
  rw [hv.entries?_unlabelled]
  cases hentries : v.entries? with
  | none => exact agrees_issue ..
  | some es =>
    have hes := hv.areTrees hentries
    rw [Option.map_some]
    dsimp only
    rw [usedNames_unlabelled]
    refine Agrees.map (alike_any.mappingOf.field hes v _) ?_
      |>.seq (alike_text.field hes v _)
      |>.seq (alike_text.fieldOr hes rfl _)
      |>.seq (Node.alike_read.mappingOf.fieldOr hes rfl _)
      |>.seq (DocumentConfig.alike_readTags.fieldOr hes rfl _)
      |>.seq (agrees_extras hes _)
    rintro info _ rfl basePath _ rfl swagger _ rfl definitions _ rfl tags _ rfl extra _ rfl
    rfl

/-! ## Route files -/

theorem Checked.Agrees.toExcept {α : Type} {f : α → α} {x y : Checked α}
    (h : Agrees (IsImage f) x y) (part : Section) :
    y.toExcept part = ((x.toExcept part).map f).mapError Error.unlabelled := by
  cases h with
  | valid h => exact congrArg Except.ok (Eq.symm h)
  | invalid i is => rfl
  | aborted f => rfl

theorem Value.isFalsy_unlabelled (h : v.IsTree path) : v.unlabelled.isFalsy = v.isFalsy := by
  cases v with
  | list l items => cases items <;> rfl
  | map l es => cases es <;> rfl
  | null | bool | number | str => rfl
  | _ => cases h

/-- Routers are read one after the other, with their labels or without. -/
theorem RouteFile.readRouters_unlabelled (h : v.IsTree path) :
    readRouters v.unlabelled =
      ((readRouters v).map (List.map Router.unlabelled)).mapError Error.unlabelled := by
  have hrouters {items : List Value} (hitems : ∀ w ∈ items, w.IsTree path) :
      (unlabelledItems items).mapM Router.ofValue =
        ((items.mapM Router.ofValue).map (List.map Router.unlabelled)).mapError
          Error.unlabelled := by
    induction items with
    | nil => rfl
    | cons w ws ih =>
      obtain ⟨hw, hws⟩ := List.forall_mem_cons.mp hitems
      have hrouter := (Router.alike_read w hw).toExcept .router
      rw [unlabelledItems, List.mapM_cons, List.mapM_cons, ih hws]
      unfold Router.ofValue
      rw [hrouter]
      cases (Router.read w).toExcept .router with
      | error e => rfl
      | ok r => cases ws.mapM fun v => (Router.read v).toExcept .router <;> rfl
  unfold readRouters
  rw [isFalsy_unlabelled h, h.iterate?_unlabelled]
  cases v.isFalsy with
  | true => rfl
  | false =>
    cases hitems : v.iterate? with
    | error f => rfl
    | ok items => exact hrouters (h.isTree_of_mem_iterate? hitems)

/-- What a route file says does not depend on labels. -/
theorem RouteFile.ofValue_unlabelled (h : v.IsTree path) (file : String) :
    RouteFile.ofValue file v.unlabelled =
      ((RouteFile.ofValue file v).map RouteFile.unlabelled).mapError Failure.unlabelled := by
  unfold RouteFile.ofValue
  rw [h.entries?_unlabelled]
  cases hentries : v.entries? with
  | none => rfl
  | some es =>
    have hes := h.areTrees hentries
    rw [Option.map_some]
    dsimp only
    rw [Entries.get?_unlabelled, Entries.get?_unlabelled]
    cases hdocument : Entries.get? es "document" with
    | none => rfl
    | some document =>
      have hconfig :=
        (DocumentConfig.alike_read document (hes.of_get? hdocument)).toExcept .document
      -- Routers that are absent are read as null.
      have hrouters : readRouters (((Entries.get? es "routers").map Value.unlabelled).getD .null) =
          ((readRouters ((Entries.get? es "routers").getD .null)).map
            (List.map Router.unlabelled)).mapError Error.unlabelled := by
        cases hget : Entries.get? es "routers" with
        | none => rfl
        | some routers => exact readRouters_unlabelled (hes.of_get? hget)
      rw [Option.map_some]
      dsimp only
      rw [hrouters]
      unfold DocumentConfig.ofValue
      rw [hconfig]
      cases (DocumentConfig.read document).toExcept .document with
      | error e => rfl
      | ok config => cases readRouters ((Entries.get? es "routers").getD .null) <;> rfl

end ApiDoc
