import Mathlib.Tactic.SplitIfs
import ApiDoc.Http.Method
import ApiDoc.Document.References

/-!
# Documents without their data

What a value of a document is for is its *role*. The role of a mapping or of a list says what the
parts of it are for, so from the document down every value has a role. Under `default`, `example`
and `enum` of a schema there is data, but a property or a header of such a name is a schema.
Documents are equal except in their data when they are the same after it has been left out
(`Value.withoutData`).

**The search** for references is told by keys alone where it is. In the end it always knows it
right: it finds the same references in a document and in the document without its data.

Main statement: `References.inDocument_withoutData`.
-/

namespace ApiDoc

/-- What a value of a document is for. -/
inductive Role where
  | document
  | paths
  /-- What there is at a path: an operation for each method. -/
  | pathItem
  | operation
  | parameters
  /-- A parameter is a schema itself, or has one. -/
  | parameter
  | responses
  | response
  /-- Schemas under names that people have chosen. -/
  | members
  /-- A list of schemas. -/
  | alternatives
  | schema
  | data
  | other
  deriving DecidableEq

namespace Role

/-- What the value under a key of a schema is for. -/
def underSchema (key : String) : Role :=
  if key ∈ References.dataKeywords then data
  else if key = "properties" then members
  else if key = "items" then schema
  else if key = "allOf" ∨ key = "x-alternatives" then alternatives
  else other

/-- What the value under a key of a mapping is for. -/
def under : Role → String → Role
  | document, key => if key = "paths" then paths else if key = "definitions" then members else other
  | paths, _ => pathItem
  | pathItem, key => if (Method.ofName? key).isSome then operation else other
  | operation, key =>
    if key = "parameters" then parameters else if key = "responses" then responses else other
  | parameter, key => if key = "schema" then schema else underSchema key
  | responses, _ => response
  | response, key => if key = "schema" then schema else if key = "headers" then members else other
  | members, _ => schema
  | schema, key => underSchema key
  | _, _ => other

/-- What the value under any key is for. -/
def at_ (role : Role) : Value → Role
  | .str key => role.under key
  | _ => other

/-- What the items of a list are for. -/
def item : Role → Role
  | parameters => parameter
  | alternatives => schema
  | _ => other

/-- Whether the keys of a mapping are names that people have chosen. -/
def isNames : Role → Bool
  | paths | responses | members => true
  | _ => false

end Role

namespace Value

mutual

/-- A value in a role, without its data. -/
def withoutData (role : Role) : Value → Value
  | .map l es => .map l (entriesWithoutData role es)
  | .list l vs => .list l (itemsWithoutData role.item vs)
  | v => v

/-- Entries of a mapping in a role, without their data. -/
def entriesWithoutData (role : Role) : List (Value × Value) → List (Value × Value)
  | [] => []
  | (k, v) :: es =>
    (k, if role.at_ k = .data then .null else withoutData (role.at_ k) v) ::
      entriesWithoutData role es

/-- Items in a role, without their data. -/
def itemsWithoutData (role : Role) : List Value → List Value
  | [] => []
  | v :: vs => withoutData role v :: itemsWithoutData role vs

end

/-- What is left of the value under a key. -/
def left (role : Role) (v : Value) : Value := if role = .data then .null else v.withoutData role

theorem entriesWithoutData_eq (role : Role) (es : Entries) :
    entriesWithoutData role es = es.map fun e => (e.1, e.2.left (role.at_ e.1)) := by
  induction es with
  | nil => rfl
  | cons e es ih =>
    rw [List.map_cons, ← ih]
    rfl

theorem withoutData_object (role : Role) (es : List (String × Value)) :
    (object es).withoutData role = object (es.map fun e => (e.1, e.2.left (role.under e.1))) := by
  rw [object, withoutData, entriesWithoutData_eq, object, List.map_map, List.map_map]
  rfl

mutual

/-- Nothing is left out of a value that is for something else. -/
theorem withoutData_other : ∀ v : Value, v.withoutData .other = v
  | .map l es => by rw [withoutData, entriesWithoutData_other es]
  | .list l vs => by
    have hitem : Role.item .other = .other := rfl
    rw [withoutData, hitem, itemsWithoutData_other vs]
  | .null | .bool _ | .number _ | .str _ | .brokenText _ | .date .. | .timestamp .. | .bytes _
  | .tuple .. | .set .. | .again .. => by simp [withoutData]

theorem entriesWithoutData_other : ∀ es : List (Value × Value), entriesWithoutData .other es = es
  | [] => by simp [entriesWithoutData]
  | (k, v) :: es => by
    have hat : Role.at_ .other k = .other := by cases k <;> rfl
    rw [entriesWithoutData, hat, if_neg (by simp), withoutData_other v, entriesWithoutData_other es]

theorem itemsWithoutData_other : ∀ vs : List Value, itemsWithoutData .other vs = vs
  | [] => by simp [itemsWithoutData]
  | v :: vs => by rw [itemsWithoutData, withoutData_other v, itemsWithoutData_other vs]

end

theorem left_other (v : Value) : v.left .other = v := by
  rw [left, if_neg (by simp), withoutData_other]

end Value

namespace Role

variable {role : Role} {key : String}

theorem isNames_under_of_isNames (h : role.isNames) (key : String) :
    (role.under key).isNames = false ∧ role.under key ≠ data := by
  cases role with
  | paths | responses | members => exact ⟨rfl, fun hdata => by cases hdata⟩
  | _ => cases h

theorem isNames_item (role : Role) : role.item.isNames = false := by
  cases role <;> rfl

theorem item_ne_document (role : Role) : role.item ≠ document := by
  cases role <;> simp [item]

theorem underSchema_eq_data_iff : underSchema key = data ↔ key ∈ References.dataKeywords := by
  unfold underSchema
  split_ifs with h <;> simp [h]

/-- Only under keys of schemas there is data, and the search knows these keys. -/
theorem isData_of_under (h : role.under key = data) : References.isData key := by
  have hschema (h : underSchema key = data) : References.isData key := by
    simp [References.isData, underSchema_eq_data_iff.mp h]
  cases role with
  | schema => exact hschema h
  | parameter =>
    rw [under] at h
    split at h
    · cases h
    · exact hschema h
  | document | pathItem | operation | response =>
    rw [under] at h
    split_ifs at h
  | paths | parameters | responses | members | alternatives | data | other => cases h

theorem under_ref (h : role.isNames = false) : role.under "$ref" = other := by
  cases role with
  | paths | responses | members => cases h
  | _ => decide

theorem under_ne_document : role.under key ≠ document := by
  have hschema : underSchema key ≠ document := by
    unfold underSchema
    split_ifs <;> simp
  cases role with
  | schema => exact hschema
  | parameter =>
    rw [under]
    split
    · simp
    · exact hschema
  | document | pathItem | operation | response =>
    rw [under]
    split_ifs <;> simp
  | paths | parameters | responses | members | alternatives | data | other => simp [under]

theorem isNames_underSchema (hdata : References.isData key = false) :
    underSchema key = other ∨ (underSchema key).isNames = decide (key ∈ References.nameMaps) := by
  have hkeyword : key ∉ References.dataKeywords := fun hmem => by
    simp [References.isData, hmem] at hdata
  unfold underSchema
  rw [if_neg hkeyword]
  split_ifs with hproperties hitems hlist
  · simp [isNames, hproperties, References.nameMaps]
  · simp [isNames, hitems, References.nameMaps]
  · rcases hlist with rfl | rfl <;> simp [isNames, References.nameMaps]
  · exact .inl rfl

/-- In a mapping of keywords the search is right about what a value is, unless the value is for
something else. -/
theorem isNames_under (h : role.isNames = false) (hdocument : role ≠ document)
    (hdata : References.isData key = false) :
    role.under key = other ∨ (role.under key).isNames = decide (key ∈ References.nameMaps) := by
  cases role with
  | document => exact absurd rfl hdocument
  | schema => exact isNames_underSchema hdata
  | parameter =>
    rw [under]
    split
    · rename_i hkey
      simp [isNames, hkey, References.nameMaps]
    · exact isNames_underSchema hdata
  | pathItem =>
    rw [under]
    split
    · rename_i hmethod
      obtain ⟨m, hm⟩ := Option.isSome_iff_exists.mp hmethod
      have hname : m.name = key := by simpa using List.find?_some hm
      refine .inr ?_
      -- No method is named like a map of names.
      rw [← hname]
      cases m <;> simp [isNames, Method.name, References.nameMaps]
    · exact .inl rfl
  | operation | response =>
    rw [under]
    split_ifs with hfirst hsecond
    · simp [isNames, hfirst, References.nameMaps]
    · simp [isNames, hsecond, References.nameMaps]
    · exact .inl rfl
  | parameters | alternatives | data | other => exact .inl rfl
  | paths | responses | members => cases h

end Role

namespace References

open Value

/-! ## The search -/

theorem inEntries_nil (names : Bool) : inEntries names [] = [] := rfl

theorem inEntries_cons (names : Bool) (e : Value × Value) (es : Entries) :
    inEntries names (e :: es) = inEntries names [e] ++ inEntries names es := by
  conv =>
    lhs
    unfold inEntries
  conv =>
    rhs
    arg 1
    unfold inEntries
  rw [inEntries_nil, List.append_nil]

/-- What the search finds under one text key. -/
theorem inEntries_str (names : Bool) (key : String) (v : Value) :
    inEntries names [(.str key, v)] =
      if names then inValue false v
      else if isData key then []
      else if key = "$ref" then
        match v with
        | .str pointer => [pointer]
        | v => inValue false v
      else inValue (key ∈ nameMaps) v := by
  unfold inEntries
  exact List.append_nil _

theorem inEntries_names (key : String) (v : Value) :
    inEntries true [(.str key, v)] = inValue false v := by
  rw [inEntries_str, if_pos rfl]

theorem inEntries_data {key : String} (hdata : isData key) (v : Value) :
    inEntries false [(.str key, v)] = [] := by
  rw [inEntries_str, if_neg Bool.false_ne_true, if_pos hdata]

theorem inEntries_keyword {key : String} (hdata : isData key = false) (href : key ≠ "$ref")
    (v : Value) :
    inEntries false [(.str key, v)] = inValue (key ∈ nameMaps) v := by
  rw [inEntries_str, if_neg Bool.false_ne_true, hdata, if_neg Bool.false_ne_true, if_neg href]

/-- The search finds the same under one key, if it does in the value there. -/
theorem inEntries_left {role : Role} {v : Value} (hrole : role ≠ .document)
    (hv : ∀ role : Role, role ≠ .document →
      inValue role.isNames (v.withoutData role) = inValue role.isNames v) (k : Value) :
    inEntries role.isNames [(k, v.left (role.at_ k))] = inEntries role.isNames [(k, v)] := by
  cases k with
  | str key =>
    have hunder := hv (role.under key) Role.under_ne_document
    rw [Role.at_]
    cases hnames : role.isNames with
    | true =>
      -- Under a name there is never data, whatever the name is.
      obtain ⟨hchild, hdata⟩ := Role.isNames_under_of_isNames hnames key
      rw [left, if_neg hdata]
      rw [hchild] at hunder
      rw [inEntries_names, inEntries_names, hunder]
    | false =>
      cases hdata : isData key with
      | true => rw [inEntries_data hdata, inEntries_data hdata]
      | false =>
        -- What the search does not take for data is not data either.
        have hne : role.under key ≠ .data := fun h => by
          simp [Role.isData_of_under h] at hdata
        by_cases href : key = "$ref"
        · rw [href, Role.under_ref hnames, left_other]
        · obtain hother | hchild := Role.isNames_under hnames hrole hdata
          · rw [hother, left_other]
          · rw [left, if_neg hne]
            rw [hchild] at hunder
            rw [inEntries_keyword hdata href, inEntries_keyword hdata href, hunder]
  | _ => simp [Role.at_, left_other]

mutual

/-- The search finds the same in a value without its data. -/
theorem inValue_withoutData (role : Role) (hrole : role ≠ .document) :
    ∀ v : Value, inValue role.isNames (v.withoutData role) = inValue role.isNames v
  | .map l es => by rw [withoutData, inValue, inValue, inEntries_withoutData role hrole es]
  | .list l vs => by
    rw [withoutData, inValue, inValue,
      inItems_withoutData role.item role.isNames_item role.item_ne_document]
  | .null | .bool _ | .number _ | .str _ | .brokenText _ | .date .. | .timestamp .. | .bytes _
  | .tuple .. | .set .. | .again .. => by simp [withoutData]

theorem inItems_withoutData (role : Role) (hnames : role.isNames = false)
    (hrole : role ≠ .document) :
    ∀ vs : List Value, inItems (itemsWithoutData role vs) = inItems vs
  | [] => by simp [itemsWithoutData]
  | v :: vs => by
    have hv := inValue_withoutData role hrole v
    rw [hnames] at hv
    rw [itemsWithoutData, inItems, inItems, hv, inItems_withoutData role hnames hrole vs]

theorem inEntries_withoutData (role : Role) (hrole : role ≠ .document) :
    ∀ es : List (Value × Value),
      inEntries role.isNames (entriesWithoutData role es) = inEntries role.isNames es
  | [] => by simp [entriesWithoutData]
  | (k, v) :: es => by
    rw [entriesWithoutData, ← left, inEntries_cons,
      inEntries_left hrole fun role hrole => inValue_withoutData role hrole v,
      inEntries_withoutData role hrole es, ← inEntries_cons]

end

theorem get?_entriesWithoutData (key : String) (es : Entries) :
    Entries.get? (entriesWithoutData .document es) key =
      (Entries.get? es key).map (left (Role.under .document key)) := by
  induction es with
  | nil => rfl
  | cons e es ih =>
    obtain ⟨k, v⟩ := e
    rw [entriesWithoutData, ← left]
    cases k with
    | str k =>
      rw [Entries.get?, Entries.get?, ih]
      split
      · rename_i hkey
        rw [hkey]
        rfl
      · rfl
    | _ => simpa [Entries.get?] using ih

/-- **The search** finds the same references in a document without its data. -/
theorem inDocument_withoutData (es : Entries) :
    inDocument (entriesWithoutData .document es) = inDocument es := by
  have hsection (name : String) (hnames : (Role.under .document name).isNames)
      (hdata : Role.under .document name ≠ .data) :
      inValue true (sectionOf (entriesWithoutData .document es) name) =
        inValue true (sectionOf es name) := by
    have hsearch := inValue_withoutData (Role.under .document name) Role.under_ne_document
    rw [hnames] at hsearch
    unfold sectionOf
    rw [get?_entriesWithoutData]
    cases es.get? name with
    | none => rfl
    | some v =>
      rw [Option.map_some, Option.getD_some, Option.getD_some, left, if_neg hdata, hsearch]
  unfold inDocument
  rw [hsection "paths" rfl (by decide), hsection "definitions" rfl (by decide)]

end References

end ApiDoc
