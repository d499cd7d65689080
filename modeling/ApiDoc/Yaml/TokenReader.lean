import ApiDoc.Text.Digits
import ApiDoc.Text.Utf8
import ApiDoc.Yaml.Scalar.Block
import ApiDoc.Yaml.Scalar.Plain
import ApiDoc.Yaml.Scalar.Quoted
import ApiDoc.Yaml.Token

/-!
# Reading tokens

`Tokens.ofText` cuts a text into tokens, from left to right.

**Indentation.** Outside of flow collections, an item or a key that is further in than the innermost
open block opens a new block; what is less far in closes blocks.

**Simple keys.** A key may be written without a mark of its own, and only the colon behind it tells
that it is one. So each place where a key may begin is remembered as a `Candidate`, until the line
ends; a colon inserts the missing token there. One candidate is remembered for each level of flow
collections. Where a text is wrong, the tokens behind a candidate are not known.
-/

namespace ApiDoc.Yaml

/-- A place where a simple key may have begun. -/
structure Candidate where
  /-- The number of tokens before it. -/
  position : Nat
  /-- Whether nothing but a key can stand there. -/
  required : Bool
  index : Nat
  line : Nat
  column : Nat

/-- How far a text has been read. -/
structure Lexing where
  cursor : Cursor
  /-- The tokens so far, the last one first. -/
  tokens : List Token := []
  /-- The number of tokens so far. -/
  count : Nat := 0
  /-- The number of flow collections that are open. -/
  flowDepth : Nat := 0
  /-- The column of the innermost open block; -1 when there is none. -/
  indent : Int := -1
  /-- The columns of the blocks around it. -/
  outer : List Int := []
  /-- Whether a simple key may begin here. -/
  keyAllowed : Bool := true
  /-- The candidates, each with its level of flow collections. -/
  candidates : List (Nat × Candidate) := []

namespace Lexing

/-- A result that is a syntax error. -/
def malformed {α : Type} (e : SyntaxError) : Except Error α := .error (.malformed e)

def emit (t : Token) (s : Lexing) : Lexing :=
  { s with tokens := t :: s.tokens, count := s.count + 1 }

/-- Inserts a token behind the first `n`. -/
def insert (n : Nat) (t : Token) (s : Lexing) : Lexing :=
  let later := s.count - n
  { s with tokens := s.tokens.take later ++ t :: s.tokens.drop later, count := s.count + 1 }

/-- Moves on by `n` characters. -/
def skip (n : Nat) (s : Lexing) : Lexing := { s with cursor := s.cursor.advance n }

/-- Whether no flow collection is open. -/
def inBlock (s : Lexing) : Bool := s.flowDepth = 0

/-! ## Blocks -/

/-- Closes blocks that are further in than a column; `opened` are the columns of those around the
innermost one. -/
def closeBlocks (column : Int) (opened : List Int) (s : Lexing) : Lexing :=
  if column < s.indent then
    match opened with
    | [] => { s.emit .blockEnd with indent := -1, outer := [] }
    | outer :: opened =>
      closeBlocks column opened { s.emit .blockEnd with indent := outer, outer := opened }
  else s

/-- Closes the blocks that are further in than a column. -/
def unwind (column : Int) (s : Lexing) : Lexing :=
  if s.inBlock then closeBlocks column s.outer s else s

/-- Whether a column is further in than the innermost block. -/
def isDeeper (s : Lexing) (column : Nat) : Bool := s.indent < column

/-- Opens a block at a column. -/
def openBlock (column : Nat) (s : Lexing) : Lexing :=
  { s with indent := column, outer := s.indent :: s.outer }

/-! ## Simple keys -/

/-- Whether a candidate can no longer be a key: its line has ended, or it is too far back. -/
def isStale (s : Lexing) (c : Candidate) : Bool :=
  c.line ≠ s.cursor.line || 1024 < s.cursor.index - c.index

/-- Gives up the candidates that are stale. -/
def dropStale (s : Lexing) : Except Error Lexing :=
  if s.candidates.any fun (_, c) => s.isStale c && c.required then malformed .missingColon
  else .ok { s with candidates := s.candidates.filter fun (_, c) => !s.isStale c }

/-- Gives up the candidate of the innermost level. -/
def dropCandidate (s : Lexing) : Except Error Lexing :=
  match s.candidates.lookup s.flowDepth with
  | none => .ok s
  | some c =>
    if c.required then malformed .missingColon
    else .ok { s with candidates := s.candidates.filter (·.1 ≠ s.flowDepth) }

/-- The candidate of a simple key that begins here. -/
def candidate (s : Lexing) : Candidate :=
  { position := s.count, required := s.inBlock && s.indent = s.cursor.column
    index := s.cursor.index, line := s.cursor.line, column := s.cursor.column }

/-- Remembers that a simple key may begin here. -/
def addCandidate (s : Lexing) : Except Error Lexing :=
  if s.keyAllowed then do
    let s ← s.dropCandidate
    return { s with candidates := (s.flowDepth, s.candidate) :: s.candidates }
  else .ok s

/-! ## Directives, names and tags -/

/-- Reads digits as a number. -/
def readNumber (k : Cursor) : Except Error (Nat × Cursor) :=
  let (ds, k) := k.takeWhile Char.isDigit
  if ds.isEmpty then malformed .directive
  else .ok (Text.decimal ds, k)

/-- Reads the handle of a tag: an exclamation mark, or a name between two of them. -/
def readHandle (k : Cursor) : Except Error (String × Cursor) :=
  if k.peek ≠ some '!' then malformed .tag
  else if k.peek 1 = some ' ' then .ok ("!", k.advance 1)
  else
    let (name, k) := (k.advance 1).takeWhile isNameChar
    if k.peek = some '!' then .ok (.ofList ('!' :: name ++ ['!']), k.advance 1)
    else malformed .tag

/-- The characters that bytes stand for in a tag. -/
def decodeCodes (codes : List UInt8) : Except Error (List Char) :=
  match Text.decode codes with
  | .ok cs => .ok cs
  | .error _ => malformed .tag

/-- Reads the rest of a tag, and the number of its characters. `codes` are the bytes written by
their codes just before. -/
def tagFrom (codes : List UInt8) : List Char → Except Error (List Char × Nat)
  | [] => (·, 0) <$> decodeCodes codes
  | c :: cs =>
    if c = '%' then
      match cs with
      | a :: b :: ds =>
        match Text.hexValue? a, Text.hexValue? b with
        | some x, some y => do
          let (text, n) ← tagFrom (codes ++ [UInt8.ofNat (x * 16 + y)]) ds
          return (text, n + 3)
        | _, _ => malformed .tag
      | _ => malformed .tag
    else if isTagChar c then do
      let before ← decodeCodes codes
      let (after, n) ← tagFrom [] cs
      return (before ++ c :: after, n + 1)
    else (·, 0) <$> decodeCodes codes

/-- Reads the rest of a tag, which is not empty. -/
def readSuffix (k : Cursor) : Except Error (String × Cursor) := do
  let (text, n) ← tagFrom [] k.rest
  if text.isEmpty then malformed .tag
  else return (.ofList text, k.advance n)

/-- Reads what a directive says, behind its name. -/
def readDirectiveValue (name : List Char) (k : Cursor) : Except Error (Directive × Cursor) := do
  if name = "YAML".toList then
    let (major, k) ← readNumber k.skipSpaces
    if k.peek ≠ some '.' then malformed .directive
    else
      let (minor, k) ← readNumber (k.advance 1)
      if endsItem k.peek then return (.version major minor, k) else malformed .directive
  else if name = "TAG".toList then
    let (handle, k) ← readHandle k.skipSpaces
    if k.peek ≠ some ' ' then malformed .directive
    else
      let (expansion, k) ← readSuffix k.skipSpaces
      if endsItem k.peek then return (.tag handle expansion, k) else malformed .directive
  else return (.unknown, k.skipWhile (!isBreak ·))

/-- Reads a directive at its percent sign. -/
def readDirective (k : Cursor) : Except Error (Directive × Cursor) := do
  let (name, k) := (k.advance 1).takeWhile isNameChar
  if name.isEmpty || !endsItem k.peek then malformed .directive
  else
    let (d, k) ← readDirectiveValue name k
    let k := k.skipSpaces.skipComment
    if endsLine k.peek then return (d, k.advance 1) else malformed .directive

/-- Reads the name of an anchor or an alias behind its indicator. -/
def readName (k : Cursor) : Except Error (String × Cursor) :=
  let (name, k) := (k.advance 1).takeWhile isNameChar
  let isEnd := match k.peek with
    | none => true
    | some c => isSpace c || "?:,]\x7d%@\x60".toList.contains c
  if name.isEmpty || !isEnd then malformed .name else .ok (.ofList name, k)

/-- Reads a tag at its exclamation mark. -/
def readTag (k : Cursor) : Except Error (Token × Cursor) := do
  let (token, k) ←
    if k.peek 1 = some '<' then do
      let (suffix, k) ← readSuffix (k.advance 2)
      if k.peek = some '>' then pure (Token.tag none suffix, k.advance 1) else malformed .tag
    else if endsWord (k.peek 1) then pure (Token.tag none "!", k.advance 1)
    else do
      let word := (k.rest.drop 1).takeWhile fun c => !endsItem (some c)
      let (handle, k) ← if word.contains '!' then readHandle k else pure ("!", k.advance 1)
      let (suffix, k) ← readSuffix k
      pure (Token.tag (some handle) suffix, k)
  if endsItem k.peek then return (token, k) else malformed .tag

/-! ## One token -/

/-- The number of characters of white space and comments, and whether a line ends in them. -/
def gapLength (inComment : Bool) : List Char → Nat × Bool
  | [] => (0, false)
  | c :: cs =>
    if isBreak c then ((gapLength false cs).1 + 1, true)
    else if inComment || c = ' ' || c = '#' then
      let (n, crossed) := gapLength (inComment || c = '#') cs
      (n + 1, crossed)
    else (0, false)

/-- Skips white space and comments, and the mark of byte order at the very beginning. -/
def skipGap (s : Lexing) : Lexing :=
  let s := if s.cursor.index = 0 ∧ s.cursor.peek = some '\uFEFF' then s.skip 1 else s
  let (n, crossed) := gapLength false s.cursor.rest
  let s := s.skip n
  if crossed && s.inBlock then { s with keyAllowed := true } else s

/-- Closes all blocks, for a token that stands outside of them. -/
def leaveBlocks (s : Lexing) : Except Error Lexing := do
  let s ← (s.unwind (-1)).dropCandidate
  return { s with keyAllowed := false }

def startFlow (t : Token) (s : Lexing) : Except Error Lexing := do
  let s ← s.addCandidate
  return { (s.skip 1).emit t with flowDepth := s.flowDepth + 1, keyAllowed := true }

def endFlow (t : Token) (s : Lexing) : Except Error Lexing := do
  let s ← s.dropCandidate
  return { (s.skip 1).emit t with flowDepth := s.flowDepth - 1, keyAllowed := false }

/-- The comma in a flow collection. -/
def addComma (s : Lexing) : Except Error Lexing := do
  let s ← s.dropCandidate
  return { (s.skip 1).emit .comma with keyAllowed := true }

/-- Opens a block for an entry here, if the entry is further in than the innermost block. -/
def startEntry (block : Token) (s : Lexing) : Except Error Lexing :=
  if !s.inBlock then .ok s
  else if !s.keyAllowed then malformed .misplacedIndicator
  else
    let column := s.cursor.column
    .ok (if s.isDeeper column then (s.openBlock column).emit block else s)

/-- The hyphen before an item. -/
def addItem (s : Lexing) : Except Error Lexing := do
  let s ← (← s.startEntry .blockSequence).dropCandidate
  return { (s.skip 1).emit .item with keyAllowed := true }

/-- The question mark before a key. -/
def addKey (s : Lexing) : Except Error Lexing := do
  let s ← (← s.startEntry .blockMapping).dropCandidate
  return { (s.skip 1).emit .key with keyAllowed := s.inBlock }

/-- The colon before a value. It makes a key of the candidate, if there is one. -/
def addValue (s : Lexing) : Except Error Lexing := do
  match s.candidates.lookup s.flowDepth with
  | some c =>
    let s := { s with candidates := s.candidates.filter (·.1 ≠ s.flowDepth) }
    let s := s.insert c.position .key
    let s :=
      if s.inBlock && s.isDeeper c.column then
        (s.openBlock c.column).insert c.position .blockMapping
      else s
    return { (s.skip 1).emit .value with keyAllowed := false }
  | none =>
    let s ← (← s.startEntry .blockMapping).dropCandidate
    return { (s.skip 1).emit .value with keyAllowed := s.inBlock }

/-- A token that may be a simple key or belong to one. -/
def addSimple (token : Token) (k : Cursor) (s : Lexing) : Except Error Lexing := do
  let s ← s.addCandidate
  return { s.emit token with cursor := k, keyAllowed := false }

def addBlockScalar (folded : Bool) (s : Lexing) : Except Error Lexing := do
  let s ← s.dropCandidate
  let (text, k) ← Scalar.readBlock folded (s.indent + 1).toNat (s.cursor.advance 1)
  return { s.emit (.scalar false (.ofList text)) with cursor := k, keyAllowed := true }

/-- The token of a scalar in double quotes. -/
def ofCodes (codes : List Nat) : Token :=
  if codes.all (·.isValidChar) then .scalar false (.ofList (codes.map Char.ofNat))
  else .brokenScalar codes

def addQuoted (double : Bool) (s : Lexing) : Except Error Lexing := do
  let cs := s.cursor.rest.drop 1
  let (token, n) ←
    if double then (fun (codes, n) => (ofCodes codes, n)) <$> Scalar.doubleQuoted (.text .none) cs
    else (fun (text, n) => (Token.scalar false (.ofList text), n))
      <$> Scalar.singleQuoted (.text .none) cs
  s.addSimple token (s.cursor.advance (n + 1))

def addPlain (s : Lexing) : Except Error Lexing := do
  let r := Scalar.plainFrom (!s.inBlock) (s.indent + 1).toNat s.cursor.column .none s.cursor.rest
  let s ← s.addSimple (.scalar true (.ofList r.text)) (s.cursor.advance r.length)
  return { s with keyAllowed := r.endsLine }

/-- A token at a character that is not the last one of its text. -/
def readTokenAt (c : Char) (cs : List Char) (s : Lexing) : Except Error Lexing := do
  let apart := endsWord cs.head?
  let atStart := s.cursor.column = 0
  if c = '%' ∧ atStart then
    let s ← s.leaveBlocks
    let (d, k) ← readDirective s.cursor
    return { s.emit (.directive d) with cursor := k }
  else if atStart ∧ startsMark '-' (c :: cs) then
    return ((← s.leaveBlocks).skip 3).emit .documentStart
  else if atStart ∧ startsMark '.' (c :: cs) then
    return ((← s.leaveBlocks).skip 3).emit .documentEnd
  else if c = '[' then s.startFlow .flowSequence
  else if c = '\x7b' then s.startFlow .flowMapping
  else if c = ']' then s.endFlow .flowSequenceEnd
  else if c = '\x7d' then s.endFlow .flowMappingEnd
  else if c = ',' then s.addComma
  -- These open nothing inside of a word.
  else if c = '-' ∧ apart then s.addItem
  else if c = '?' ∧ (apart ∨ !s.inBlock) then s.addKey
  else if c = ':' ∧ (apart ∨ !s.inBlock) then s.addValue
  else if c = '*' then
    let (name, k) ← readName s.cursor
    s.addSimple (.alias name) k
  else if c = '&' then
    let (name, k) ← readName s.cursor
    s.addSimple (.anchor name) k
  else if c = '!' then
    let (token, k) ← readTag s.cursor
    s.addSimple token k
  else if c = '|' ∧ s.inBlock then s.addBlockScalar false
  else if c = '>' ∧ s.inBlock then s.addBlockScalar true
  else if c = '\'' then s.addQuoted false
  else if c = '"' then s.addQuoted true
  else if Scalar.startsPlain (!s.inBlock) c cs then s.addPlain
  else malformed .noToken

/-- Reads the next token. The flag says whether the text has ended. -/
def readToken (s : Lexing) : Except Error (Lexing × Bool) := do
  let s ← s.skipGap.dropStale
  let s := s.unwind s.cursor.column
  match s.cursor.rest with
  | [] => return ((← s.leaveBlocks).emit .streamEnd, true)
  | c :: cs => return (← s.readTokenAt c cs, false)

/-- The tokens among which nothing can be inserted any more: those before all candidates. -/
def settled (s : Lexing) : List Token :=
  let pending := s.candidates.filter fun (_, c) => !s.isStale c
  s.tokens.reverse.take (pending.foldl (fun n (_, c) => min n c.position) s.count)

/-- Reads tokens; each takes at least one character, so that `fuel` of their number is enough. -/
def readAll : Nat → Lexing → Tokens
  | 0, s => ⟨s.settled, some (.malformed .noToken)⟩
  | fuel + 1, s =>
    match s.readToken with
    | .error e => ⟨s.settled, some e⟩
    | .ok (s, true) => ⟨s.tokens.reverse, none⟩
    | .ok (s, false) => readAll fuel s

end Lexing

def Tokens.ofText (text : List Char) : Tokens :=
  if text.all isAllowed then Lexing.readAll (text.length + 1) { cursor := ⟨text, 0, 0, 0⟩ }
  else ⟨[], some (.malformed .character)⟩

end ApiDoc.Yaml
