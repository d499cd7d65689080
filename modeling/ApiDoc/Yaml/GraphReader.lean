import ApiDoc.Yaml.Graph
import ApiDoc.Yaml.TokenReader

/-!
# Reading graphs

`readGraph` makes the graph of a text from its tokens. A text holds at most one document.

**Nodes.** A node can have an anchor and a tag in front of it. Where a node is missing, as behind a
key without a value, an empty scalar stands for it. The items of a list that is the value of a key
need not be further in than the key; such a list has no tokens of its own around it. An alias can
refer to a node that it is a part of.

Every function takes at least one token before it calls another one that does, so a number of
steps in proportion to the tokens is enough for all of them.
-/

namespace ApiDoc.Yaml

/-- What has been read of a document, and the tokens that are left. -/
structure Growing where
  tokens : List Token
  /-- What is wrong behind the last token, if anything is. -/
  error : Option Error
  /-- The anchors so far, with the numbers of their nodes. -/
  anchors : List (String × Nat) := []
  /-- The handles of tags, with what they stand for. -/
  handles : List (String × String) := []
  /-- The nodes so far; one that is still open is an empty scalar. -/
  graph : Graph := #[]

/-- A step of reading a graph. -/
abbrev Grow := StateT Growing (Except Error)

namespace Grow

def fail {α : Type} (e : SyntaxError) : Grow α := throw (.malformed e)

def peek : Grow Token := do
  let s ← get
  match s.tokens with
  | t :: _ => return t
  | [] => throw (s.error.getD (.malformed .unexpectedToken))

def advance : Grow Unit := modify fun s => { s with tokens := s.tokens.drop 1 }

def add (v : Vertex) : Grow Nat :=
  modifyGet fun s => (s.graph.size, { s with graph := s.graph.push v })

def complete (id : Nat) (v : Vertex) : Grow Unit :=
  modify fun s => { s with graph := s.graph.setIfInBounds id v }

/-- The node that stands where one is missing. -/
def emptyScalar : Grow Nat := add (.scalar .null "")

/-- The tag that a handle and a suffix make. -/
def fullTag (handle : Option String) (suffix : String) : Grow String := do
  match handle with
  | none => return suffix
  | some h =>
    let s ← get
    match s.handles.lookup h with
    | some expansion => return expansion ++ suffix
    | none => fail .tag

/-- A tag, if one comes next. -/
def readTag : Grow (Option String) := do
  match ← peek with
  | .tag handle suffix =>
    advance
    return some (← fullTag handle suffix)
  | _ => return none

/-- An anchor, if one comes next. -/
def readAnchor : Grow (Option String) := do
  match ← peek with
  | .anchor name =>
    advance
    return some name
  | _ => return none

/-- An anchor and a tag in any order, as far as they are there. -/
def readProperties : Grow (Option String × Option String) := do
  match ← readAnchor with
  | some name => return (some name, ← readTag)
  | none =>
    let tag ← readTag
    match tag with
    | some _ => return (← readAnchor, tag)
    | none => return (none, none)

/-- Refuses an anchor that is there already. -/
def checkAnchor (name : Option String) : Grow Unit := do
  let s ← get
  if (name.bind fun n => s.anchors.lookup n).isSome then fail .duplicateAnchor

/-- Registers the anchor of a node. -/
def register (name : Option String) (id : Nat) : Grow Unit :=
  match name with
  | none => pure ()
  | some name => modify fun s => { s with anchors := (name, id) :: s.anchors }

/-- The node that an alias refers to. -/
def resolveAlias (name : String) : Grow Nat := do
  match (← get).anchors.lookup name with
  | some id => return id
  | none => fail .undefinedAlias

def collectionTag (usual : Tag) (tag : Option String) : Tag :=
  match tag with
  | none => usual
  | some t => if t = "!" then usual else .ofName t

def scalarTag (plain : Bool) (tag : Option String) (text : String) : Tag :=
  match tag with
  | none => if plain then .ofPlain text else .str
  | some t => if t = "!" then .ofPlain text else .ofName t

/-- The empty scalar behind an anchor or a tag, which has to be there. -/
def missing (anchor tag : Option String) : Grow Vertex :=
  if anchor.isSome || tag.isSome then return .scalar (scalarTag true tag "") ""
  else fail .unexpectedToken

/-- Whether a token ends an entry of a block mapping. -/
def endsEntry : Token → Bool
  | .key | .value | .blockEnd => true
  | _ => false

/-- Whether a token ends an item of a list without tokens around it. -/
def endsItem : Token → Bool
  | .item => true
  | t => endsEntry t

/-- Whether a token ends an item of a block sequence. -/
def endsBlockItem : Token → Bool
  | .item | .blockEnd => true
  | _ => false

/-- Whether a token ends a part of an entry of a flow collection. -/
def endsFlowPart (close : Token) (t : Token) : Bool := t = .comma || t = close

mutual

/-- Reads a node. `inBlock` says that a block collection can stand here, `asValue` that its items
need not be further in. -/
def readNode (inBlock asValue : Bool) : Nat → Grow Nat
  | 0 => fail .unexpectedToken
  | fuel + 1 => do
    match ← peek with
    | .alias name =>
      advance
      resolveAlias name
    | _ =>
      let (anchor, tag) ← readProperties
      checkAnchor anchor
      -- The node has its place before its parts are read, which can refer to it.
      let id ← emptyScalar
      register anchor id
      let node ← match ← peek with
        | .item =>
          if asValue then Vertex.sequence (collectionTag .seq tag) <$> readItems fuel
          else missing anchor tag
        | .scalar plain text => do
          advance
          pure (Vertex.scalar (scalarTag plain tag text) text)
        | .brokenScalar codes => do
          advance
          pure (Vertex.brokenScalar (collectionTag .str tag) codes)
        | .flowSequence => do
          advance
          Vertex.sequence (collectionTag .seq tag) <$> readFlowItems true fuel
        | .flowMapping => do
          advance
          Vertex.mapping (collectionTag .map tag) <$> readFlowEntries true fuel
        | .blockSequence =>
          if inBlock then do
            advance
            Vertex.sequence (collectionTag .seq tag) <$> readBlockItems fuel
          else missing anchor tag
        | .blockMapping =>
          if inBlock then do
            advance
            Vertex.mapping (collectionTag .map tag) <$> readBlockEntries fuel
          else missing anchor tag
        | _ => missing anchor tag
      complete id node
      return id

/-- Reads a node unless a token comes next that shows that it is missing. -/
def readNodeUnless (isEnd : Token → Bool) (inBlock asValue : Bool) : Nat → Grow Nat
  | 0 => fail .unexpectedToken
  | fuel + 1 => do
    if isEnd (← peek) then emptyScalar else readNode inBlock asValue fuel

/-- Reads the items of a block sequence. -/
def readBlockItems : Nat → Grow (List Nat)
  | 0 => fail .unexpectedToken
  | fuel + 1 => do
    match ← peek with
    | .item =>
      advance
      let node ← readNodeUnless endsBlockItem true false fuel
      return node :: (← readBlockItems fuel)
    | .blockEnd =>
      advance
      return []
    | _ => fail .unexpectedToken

/-- Reads the items of a list without tokens around it. -/
def readItems : Nat → Grow (List Nat)
  | 0 => fail .unexpectedToken
  | fuel + 1 => do
    match ← peek with
    | .item =>
      advance
      let node ← readNodeUnless endsItem true false fuel
      return node :: (← readItems fuel)
    | _ => return []

/-- Reads the entries of a block mapping. -/
def readBlockEntries : Nat → Grow (List (Nat × Nat))
  | 0 => fail .unexpectedToken
  | fuel + 1 => do
    match ← peek with
    | .key =>
      advance
      let key ← readNodeUnless endsEntry true true fuel
      let value ← readValue endsEntry true fuel
      return (key, value) :: (← readBlockEntries fuel)
    | .blockEnd =>
      advance
      return []
    | _ => fail .unexpectedToken

/-- Reads the value of an entry, which may be missing together with its colon. -/
def readValue (isEnd : Token → Bool) (inBlock : Bool) : Nat → Grow Nat
  | 0 => fail .unexpectedToken
  | fuel + 1 => do
    match ← peek with
    | .value =>
      advance
      readNodeUnless isEnd inBlock inBlock fuel
    | _ => emptyScalar

/-- Reads the rest of a flow sequence; `first` says that no item has been read. An entry with a key
is a mapping of its own. -/
def readFlowItems (first : Bool) : Nat → Grow (List Nat)
  | 0 => fail .unexpectedToken
  | fuel + 1 => do
    let t ← peek
    if t = .flowSequenceEnd then
      advance
      return []
    else
      unless first do
        if t = .comma then advance else fail .unexpectedToken
      let isEnd := endsFlowPart .flowSequenceEnd
      match ← peek with
      | .flowSequenceEnd =>
        advance
        return []
      | .key =>
        advance
        let id ← emptyScalar
        let key ← readNodeUnless (fun t => t = .value || isEnd t) false false fuel
        let value ← readValue isEnd false fuel
        complete id (.mapping .map [(key, value)])
        return id :: (← readFlowItems false fuel)
      | _ =>
        let node ← readNode false false fuel
        return node :: (← readFlowItems false fuel)

/-- Reads the rest of a flow mapping; `first` says that no entry has been read. An entry without a
mark of its key is a key without a value. -/
def readFlowEntries (first : Bool) : Nat → Grow (List (Nat × Nat))
  | 0 => fail .unexpectedToken
  | fuel + 1 => do
    let t ← peek
    if t = .flowMappingEnd then
      advance
      return []
    else
      unless first do
        if t = .comma then advance else fail .unexpectedToken
      let isEnd := endsFlowPart .flowMappingEnd
      match ← peek with
      | .flowMappingEnd =>
        advance
        return []
      | .key =>
        advance
        let key ← readNodeUnless (fun t => t = .value || isEnd t) false false fuel
        let value ← readValue isEnd false fuel
        return (key, value) :: (← readFlowEntries false fuel)
      | _ =>
        let key ← readNode false false fuel
        let value ← emptyScalar
        return (key, value) :: (← readFlowEntries false fuel)

end

/-! ## Documents -/

/-- The handles that need no directive. -/
def usualHandles : List (String × String) := [("!", "!"), ("!!", Tag.domain)]

/-- Takes the directives of a document. `versioned` says that its version is known, `handles` are
those declared so far. -/
def readDirectives (versioned : Bool) (handles : List (String × String)) :
    List Token → Except Error (List (String × String) × List Token)
  | .directive (.version major _) :: ts =>
    if versioned || major ≠ 1 then .error (.malformed .directive)
    else readDirectives true handles ts
  | .directive (.tag handle expansion) :: ts =>
    if (handles.lookup handle).isSome then .error (.malformed .directive)
    else readDirectives versioned (handles ++ [(handle, expansion)]) ts
  | .directive .unknown :: ts => readDirectives versioned handles ts
  | ts => .ok (handles ++ usualHandles, ts)

/-- Takes the marks of the ends of documents. -/
def skipEnds : Grow Unit :=
  modify fun s => { s with tokens := s.tokens.dropWhile (· = .documentEnd) }

/-- Reads a document with a mark of its start. -/
def readMarkedDocument (fuel : Nat) : Grow Nat := do
  let s ← get
  match readDirectives false [] s.tokens with
  | .error e => throw e
  | .ok (handles, tokens) =>
    set { s with tokens, handles }
    match ← peek with
    | .documentStart =>
      advance
      match ← peek with
      | .directive _ | .documentStart | .documentEnd | .streamEnd => emptyScalar
      | _ => readNode true false fuel
    | _ => fail .unexpectedToken

/-- Reads the only document of a text, if there is one. -/
def readDocument (fuel : Nat) : Grow (Option Nat) := do
  let root ← match ← peek with
    | .streamEnd => pure none
    | .directive _ | .documentStart => some <$> readMarkedDocument fuel
    | _ =>
      modify fun s => { s with handles := usualHandles }
      some <$> readNode true false fuel
  skipEnds
  match ← peek with
  | .streamEnd => return root
  | .directive _ | .documentStart => fail .severalDocuments
  | _ => fail .unexpectedToken

end Grow

/-- The graph of a text and the number of its outermost node, unless the text has no document. -/
def readGraph (text : List Char) : Except Error (Option (Graph × Nat)) := do
  let ts := Tokens.ofText text
  let start : Growing := { tokens := ts.tokens, error := ts.error }
  let (root, s) ← (Grow.readDocument (3 * ts.tokens.length + 3)).run start
  return root.map fun n => (s.graph, n)

end ApiDoc.Yaml
