import ApiDoc.Yaml.Graph
import ApiDoc.Yaml.Scalar.Value

/-!
# Building values

The value of each node is of the type that its tag says. A key must not be a container; of several
entries with one key the last counts, at the place of the first.

**Order.** Values are built level by level from the outside in. A scalar is built when it is met,
each node once. A container is opened after everything on the levels before, which does its merges
and meets its parts. So of several nodes without a value the one on the outermost level counts, and
there the first one.
-/

namespace ApiDoc.Yaml

/-- What has been built of a graph. -/
structure Construction where
  graph : Graph
  /-- The nodes that have been met. -/
  met : Array Bool
  /-- The values of the scalars that have been met. -/
  scalars : Array Value
  /-- The containers that are to be opened, the last one first. -/
  pending : List Nat := []

namespace Construction

/-- Nothing of a graph. -/
def start (g : Graph) : Construction :=
  { graph := g, met := .replicate g.size false, scalars := .replicate g.size .null }

/-- A node that its tag does not fit. -/
def unfit {α : Type} : Except Error α := .error (.malformed .unfitNode)

def scalar (c : Construction) (n : Nat) : Except Error Value :=
  match c.graph.scalarOf? (c.graph.size + 1) n with
  | some (.scalar _ text) => (Scalar.value? n (c.graph.tagOf n) text).getD unfit
  | some (.brokenScalar _ codes) =>
    if c.graph.tagOf n = .str then .ok (.brokenText codes) else unfit
  | _ => unfit

def meet (c : Construction) (n : Nat) : Except Error Construction := do
  if c.met[n]?.getD true then return c
  let c := { c with met := c.met.setIfInBounds n true }
  if (c.graph.tagOf n).isContainer then return { c with pending := n :: c.pending }
  let v ← c.scalar n
  return { c with scalars := c.scalars.setIfInBounds n v }

/-- Meets the nodes of an entry, whose key must not be a container. -/
def meetEntry (c : Construction) (entry : Nat × Nat) : Except Error Construction := do
  let c ← c.meet entry.1
  if (c.graph.tagOf entry.1).isContainer then throw (.malformed .unhashableKey)
  c.meet entry.2

/-- Meets the nodes of a mapping that is a pair. -/
def meetPair (c : Construction) (n : Nat) : Except Error Construction :=
  match c.graph[n]? with
  | some (.mapping _ [(k, v)]) => do (← c.meet k).meet v
  | _ => unfit

def expand (c : Construction) (n : Nat) : Except Error Construction :=
  match c.graph[n]? with
  | some (.sequence .seq items) => items.foldlM meet c
  | some (.sequence .pairs items) => items.foldlM meetPair c
  | some (.mapping .map _) | some (.mapping .set _) => do
    let graph ← c.graph.merge n
    (graph.entriesOf n).foldlM meetEntry { c with graph }
  | _ => unfit

/-- Opens the containers of one level after the other, within a number of levels. -/
def run (c : Construction) : Nat → Except Error Construction
  | 0 => .ok c
  | fuel + 1 =>
    if c.pending.isEmpty then .ok c
    else do (← c.pending.reverse.foldlM expand { c with pending := [] }).run fuel

/-- The value of a node inside of others, within a number of levels. -/
def valueOf (c : Construction) : Nat → List Nat → Nat → Value
  | 0, _, _ => .null
  | fuel + 1, path, n =>
    let part := c.valueOf fuel (n :: path)
    if path.contains n then .again (.source n) (c.graph.tagOf n = .map)
    else
      match c.graph[n]? with
      | some (.sequence .seq items) => .list (.source n) (items.map part)
      | some (.sequence .pairs items) =>
        .list (.source n) (items.zipIdx.map fun (item, i) =>
          .tuple (.pair n i) ((c.graph.entriesOf item).flatMap fun (k, v) => [part k, part v]))
      | some (.mapping .set es) =>
        .set (.source n) ((Entries.ofList (es.map fun (k, _) => (part k, .null))).map (·.1))
      | some (.mapping .map es) =>
        .map (.source n) (Entries.ofList (es.map fun (k, v) => (part k, part v)))
      | _ => c.scalars[n]?.getD .null

end Construction

/-- The value of a node of a graph. -/
def Graph.value (g : Graph) (n : Nat) : Except Error Value := do
  let c ← (← (Construction.start g).meet n).run (g.size + 1)
  return c.valueOf (g.size + 1) [] n

end ApiDoc.Yaml
