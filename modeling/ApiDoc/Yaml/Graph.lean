import ApiDoc.Yaml.Error
import ApiDoc.Yaml.Tag

/-!
# Graphs of YAML

A document is a graph of nodes. A node is given by its number, and an alias is the number of the
node that it refers to, so a container can be among its own parts.

**Merging.** An entry under `<<` stands for the entries of a mapping, or of each mapping of a
list. They come before the other entries, so that those count where a key is there twice; in a list
the first mapping counts most and so comes last. A mapping that merges itself has then only those of
its entries that are no merges.
-/

namespace ApiDoc.Yaml

/-- A node; its parts are given by their numbers. -/
inductive Vertex where
  | scalar (tag : Tag) (text : String)
  /-- A scalar with codes that no character has. -/
  | brokenScalar (tag : Tag) (codes : List Nat)
  | sequence (tag : Tag) (items : List Nat)
  | mapping (tag : Tag) (entries : List (Nat × Nat))
  deriving Repr

/-- The tag of a node. -/
def Vertex.tag : Vertex → Tag
  | scalar t _ | brokenScalar t _ | sequence t _ | mapping t _ => t

/-- The nodes of a document, by their numbers. -/
abbrev Graph := Array Vertex

namespace Graph

/-- The tag of a node. -/
def tagOf (g : Graph) (n : Nat) : Tag := (g[n]?.map Vertex.tag).getD .null

/-- The entries of a mapping; another node has none. -/
def entriesOf (g : Graph) (n : Nat) : List (Nat × Nat) :=
  match g[n]? with
  | some (.mapping _ es) => es
  | _ => []

/-- Gives a mapping other entries. -/
def setEntries (g : Graph) (n : Nat) (entries : List (Nat × Nat)) : Graph :=
  g.setIfInBounds n (.mapping (g.tagOf n) entries)

/-- Makes the key of a default value a usual key. -/
def plainKey (g : Graph) (key : Nat) : Graph :=
  match g[key]? with
  | some (.scalar .value text) => g.setIfInBounds key (.scalar .str text)
  | some (.brokenScalar .value codes) => g.setIfInBounds key (.brokenScalar .str codes)
  | some (.sequence .value items) => g.setIfInBounds key (.sequence .str items)
  | some (.mapping .value entries) => g.setIfInBounds key (.mapping .str entries)
  | _ => g

/-- The number of merges in a node. -/
def mergesIn (g : Graph) : Vertex → Nat
  | .mapping _ es => es.countP fun (k, _) => g.tagOf k = .merge
  | _ => 0

/-- The number of merges in a graph. -/
def mergeCount (g : Graph) : Nat := g.foldl (fun count v => count + mergesIn g v) 0

/-- The value of the first merge among entries, and the other entries. -/
def takeMerge? (g : Graph) : List (Nat × Nat) → Option (Nat × List (Nat × Nat))
  | [] => none
  | (k, v) :: es =>
    if g.tagOf k = .merge then some (v, es)
    else (takeMerge? g es).map fun (merged, rest) => (merged, (k, v) :: rest)

/-- The entries that the value of a merge stands for. `flat` does the merges of a mapping. -/
def mergedEntries (flat : Nat → Graph → Except Error Graph) (v : Nat) (g : Graph) :
    Except Error (List (Nat × Nat) × Graph) :=
  match g[v]? with
  | some (.mapping ..) => (flat v g).map fun g => (g.entriesOf v, g)
  | some (.sequence _ items) =>
    items.foldlM (fun ((found, g) : List (Nat × Nat) × Graph) (item : Nat) =>
      match g[item]? with
      | some (.mapping ..) => (flat item g).map fun g => (g.entriesOf item ++ found, g)
      | _ => .error (.malformed .unfitNode)) ([], g)
  | _ => .error (.malformed .unfitNode)

/-- Does the merges of a mapping, after those that gave the entries `found`. Each step removes one
of the `fuel` merges of the graph. -/
def mergeFrom (fuel n : Nat) (found : List (Nat × Nat)) (g : Graph) : Except Error Graph :=
  match fuel, g.takeMerge? (g.entriesOf n) with
  | fuel + 1, some (v, rest) => do
    let (more, g) ← mergedEntries (fun n g => mergeFrom fuel n [] g) v (g.setEntries n rest)
    mergeFrom fuel n (found ++ more) g
  | _, _ =>
    let entries := g.entriesOf n
    let g := entries.foldl (fun g (k, _) => g.plainKey k) g
    .ok (if found.isEmpty then g else g.setEntries n (found ++ entries))

/-- Does the merges of a mapping. Only a mapping that has one asks for the number of all of them. -/
def merge (n : Nat) (g : Graph) : Except Error Graph :=
  if (g.takeMerge? (g.entriesOf n)).isSome then g.mergeFrom g.mergeCount n []
  else g.mergeFrom 0 n []

/-- The scalar that a node is, or that is the default value of a mapping, within a number of
steps. -/
def scalarOf? (g : Graph) : Nat → Nat → Option Vertex
  | 0, _ => none
  | fuel + 1, n =>
    match g[n]? with
    | some (.mapping _ es) =>
      match es.find? fun (k, _) => g.tagOf k = .value with
      | some (_, v) => scalarOf? g fuel v
      | none => none
    | some (.sequence ..) | none => none
    | some v => some v

end Graph

end ApiDoc.Yaml
