import ApiDoc.Text.Base64
import ApiDoc.Yaml.Page
import ApiDoc.Yaml.Sharing
import ApiDoc.Yaml.Style

/-!
# Writing values

`Yaml.write` gives the YAML text of a value. Lists and mappings are blocks, unless they are empty;
the items of a list under a key are not further in than the key. A key that is short and on one line
stands before its colon; any other key gets a mark and a line of its own.
-/

namespace ApiDoc.Yaml

/-- Where a node stands. -/
inductive Slot where
  /-- An item of a list. -/
  | item
  /-- A key before its colon. -/
  | simpleKey
  /-- A value of a mapping, or a key with a mark. -/
  | member
  deriving DecidableEq

/-- A floating-point number: one with an exponent has a point too. -/
def floatText : Binary64 → String
  | .nan _ => ".nan"
  | .infinity s => if s then "-.inf" else ".inf"
  | x =>
    let cs := x.text.toList
    if cs.contains '.' then x.text
    else .ofList (cs.takeWhile (· ≠ 'e') ++ '.' :: '0' :: cs.dropWhile (· ≠ 'e'))

/-- A scalar as it is written. -/
structure ScalarForm where
  text : List Char
  /-- Whether the text alone is read as the same value. -/
  readsBack : Bool := true
  /-- The length of the tag, written or not. -/
  tagLength : Nat
  /-- The codes, when the text is broken. -/
  codes : Option (List Nat) := none

/-- The form of a scalar; a container has none. -/
def scalarForm? : Value → Option ScalarForm
  | .null => some { text := "null".toList, tagLength := 6 }
  | .bool b => some { text := (if b then "true" else "false").toList, tagLength := 6 }
  | .number (.int n) => some { text := (toString n).toList, tagLength := 5 }
  | .number (.float x) => some { text := (floatText x).toList, tagLength := 7 }
  | .str s => some { text := s.toList, readsBack := Tag.ofPlain s = .str, tagLength := 5 }
  | .brokenText codes =>
    some {
      text := codes.map fun n => (Text.charOf? n).getD '\uFFFD'
      tagLength := 5
      codes := some codes }
  | .date _ d => some { text := d.text.toList, tagLength := 11 }
  | .timestamp _ t => some { text := (t.text " ").toList, tagLength := 11 }
  | .bytes _ | .list .. | .tuple .. | .set .. | .map .. | .again .. => none

def anchorName (position : Nat) : List Char := 'i' :: 'd' :: (padded 3 (position + 1)).toList

/-- Whether a key can stand before its colon: when it is on one line, not empty, and shorter than
128 characters with its anchor and its tag. -/
def isSimpleKey (s : Sharing) (p : Page) (key : Value) : Bool :=
  match s.position? key.label, scalarForm? key with
  | some n, some f =>
    p.written.contains key.label
      || (anchorName n).length + f.tagLength + f.text.length < 128
  | none, some f => !f.text.isEmpty && !f.text.any isBreak && f.tagLength + f.text.length < 128
  | _, none => false

/-- The lines of a byte string: base 64 with 57 bytes on each. -/
def byteLines (fuel : Nat) (bs : List UInt8) : List (List Char) :=
  match fuel, bs with
  | 0, _ | _, [] => []
  | fuel + 1, bs => Text.Base64.encode (bs.take 57) :: byteLines fuel (bs.drop 57)

def writeBytes (n : Nat) (bs : List UInt8) (p : Page) : Page :=
  let p := p.indicator "!!binary".toList true
  if bs.isEmpty then p.doubleQuoted true n [] else p.literal n (byteLines bs.length bs)

/-- Writes a scalar in the style that fits it. -/
def writeScalar (n : Nat) (slot : Slot) (f : ScalarForm) (p : Page) : Page :=
  let split := slot ≠ .simpleKey
  match f.codes, Style.choose f.readsBack (slot = .simpleKey) f.text with
  | some codes, _ => p.doubleQuoted split n codes
  | none, .plain => p.plain split n f.text
  | none, .single => p.singleQuoted split n f.text
  | none, .double => p.doubleQuoted split n (f.text.map Char.toNat)

/-- Writes what stands before a node: an alias in place of an object that has been written, or the
anchor of one that is shared. The flag says that the node itself is to be written. -/
def writeAnchor (s : Sharing) (label : Label) (p : Page) : Page × Bool :=
  match s.position? label with
  | none => (p, true)
  | some n =>
    if p.written.contains label then (p.indicator ('*' :: anchorName n) true, false)
    else ({ p.indicator ('&' :: anchorName n) true with written := label :: p.written }, true)

/-- Writes a value without parts. -/
def writeLeaf (s : Sharing) (n : Nat) (slot : Slot) (v : Value) (p : Page) : Page :=
  match writeAnchor s v.label p, v with
  | (p, false), _ => p
  | (p, true), .bytes bs => writeBytes n bs p
  | (p, true), v =>
    match scalarForm? v with
    | some f => writeScalar n slot f p
    | none => p

/-- The mark of an item at the indentation `n`. -/
def startItem (n : Nat) (p : Page) : Page := (p.toIndent n).indicator ['-'] true false true

/-- Writes a key, which is no container, and its colon at the indentation `n`. -/
def writeKey (s : Sharing) (n : Nat) (k : Value) (p : Page) : Page :=
  let p := p.toIndent n
  if isSimpleKey s p k then (writeLeaf s (n + 2) .simpleKey k p).indicator [':'] false
  else
    let p := writeLeaf s (n + 2) .member k (p.indicator ['?'] true false true)
    (p.toIndent n).indicator [':'] true false true

/-- Writes keys, each with nothing as its value, at the indentation `n`. -/
def writeKeys (s : Sharing) (n : Nat) : List Value → Page → Page
  | [], p => p
  | k :: ks, p => writeKeys s n ks (writeLeaf s (n + 2) .member .null (writeKey s n k p))

mutual

/-- Writes a node whose parts have the indentation `n`. -/
def writeNode (s : Sharing) (n : Nat) (slot : Slot) : Value → Page → Page
  | .list l items, p | .tuple l items, p =>
    match writeAnchor s l p with
    -- An alias stands for a container that has been written.
    | (p, false) => p
    | (p, true) =>
      if items.isEmpty then (p.indicator ['['] true true).indicator [']'] false
      else writeItems s (if slot = .member && !p.atIndent then n - 2 else n) items p
  | .set l keys, p =>
    match writeAnchor s l p with
    | (p, false) => p
    | (p, true) =>
      let p := p.indicator "!!set".toList true
      if keys.isEmpty then (p.indicator ['\x7b'] true true).indicator ['\x7d'] false
      else writeKeys s n keys p
  | .map l entries, p =>
    match writeAnchor s l p with
    | (p, false) => p
    | (p, true) =>
      if entries.isEmpty then (p.indicator ['\x7b'] true true).indicator ['\x7d'] false
      else writeEntries s n entries p
  | v, p => writeLeaf s n slot v p

/-- Writes items at the indentation `n`. -/
def writeItems (s : Sharing) (n : Nat) : List Value → Page → Page
  | [], p => p
  | v :: vs, p => writeItems s n vs (writeNode s (n + 2) .item v (startItem n p))

/-- Writes entries at the indentation `n`. -/
def writeEntries (s : Sharing) (n : Nat) : List (Value × Value) → Page → Page
  | [], p => p
  | (k, v) :: es, p => writeEntries s n es (writeNode s (n + 2) .member v (writeKey s n k p))

end

/-- The indentation of the parts of a value that stands alone: the lines of a scalar are further
in. -/
def outerIndent : Value → Nat
  | .list .. | .tuple .. | .set .. | .map .. => 0
  | _ => 2

def write (v : Value) : String :=
  ((writeNode (Sharing.ofValue {} v) (outerIndent v) .item v {}).toIndent 0).text

end ApiDoc.Yaml
