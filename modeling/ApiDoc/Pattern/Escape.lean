import ApiDoc.Pattern.Scan
import ApiDoc.Text.CharacterName.Lookup
import ApiDoc.Text.Digits

/-!
# Escapes

What a backslash and a character mean, outside a character set and inside one. Outside, digits can
refer to a group; inside, they are always an octal code.
-/

namespace ApiDoc.Pattern

inductive Escaped where
  | code (n : Nat)
  /-- The characters of a class, or all others. -/
  | ofClass (class_ : CharClass) (negated : Bool)
  | anchor (a : Anchor)
  | reference (group : Nat) (width : Width)

/-- The control characters that have a letter. -/
def controlCode? (c : Char) : Option Nat :=
  match c with
  | 'a' => some 0x07
  | 'b' => some 0x08
  | 'f' => some 0x0c
  | 'n' => some 0x0a
  | 'r' => some 0x0d
  | 't' => some 0x09
  | 'v' => some 0x0b
  | '\\' => some 0x5c
  | _ => none

/-- The class of characters that a letter stands for. -/
def class? (c : Char) : Option Escaped :=
  match c with
  | 'd' => some (.ofClass .digit false)
  | 'D' => some (.ofClass .digit true)
  | 's' => some (.ofClass .blank false)
  | 'S' => some (.ofClass .blank true)
  | 'w' => some (.ofClass .word false)
  | 'W' => some (.ofClass .word true)
  | _ => none

/-- The place between characters that a letter stands for. -/
def anchor? (c : Char) : Option Escaped :=
  match c with
  | 'A' => some (.anchor .textStart)
  | 'b' => some (.anchor .wordEdge)
  | 'B' => some (.anchor .noWordEdge)
  | 'Z' => some (.anchor .textEnd)
  | _ => none

/-- An octal digit. -/
def isOctal (c : Char) : Bool := '0' ≤ c && c ≤ '7'

/-- The value of a run of digits. -/
def valueOf (base : Nat) (cs : List Char) : Nat :=
  cs.foldl (fun n c => n * base + (Text.hexValue? c).getD 0) 0

namespace Reader

/-- The text of an escape with what has been read of it. -/
def escapeText (c : Char) (more : List Char) : String := .ofList ('\\' :: c :: more)

/-- A code of exactly `n` hexadecimal digits. -/
def hexCode (c : Char) (n : Nat) : Reader Escaped := do
  let digits ← takeWhile Text.isHex n
  if digits.length ≠ n then fail (.incompleteEscape (escapeText c digits)) (digits.length + 2)
  let code := valueOf 16 digits
  if 0x7fffffff < code then throw (.refused .character)
  if 0x10ffff < code then fail (.badEscape (escapeText c digits)) (digits.length + 2)
  return .code code

/-- A character given by its name. -/
def namedCode : Reader Escaped := do
  if !(← accept '\x7b') then fail (.missing "\x7b")
  let name ← takeName '\x7d' "character name"
  match Text.characterNamed? name with
  | some n => return .code n
  | none => fail (.undefinedCharacter (.ofList name)) (name.length + 4)

/-- An escape whose letter has no use, or a character that stands for itself. -/
def otherEscape (c : Char) : Reader Escaped := do
  if c.isAlpha || c.isDigit then fail (.badEscape (escapeText c [])) 2
  return .code c.toNat

/-- An octal code, which must fit a byte. -/
def octalCode (c : Char) (digits : List Char) : Reader Escaped := do
  let code := valueOf 8 (c :: digits)
  if 0o377 < code then fail (.octalRange (escapeText c digits)) (digits.length + 2)
  return .code code

/-- An escape inside a character set. -/
def setEscape (c : Char) : Reader Escaped := do
  match (controlCode? c).map Escaped.code, class? c with
  | some e, _ | none, some e => return e
  | none, none =>
    if c = 'x' then hexCode c 2
    else if c = 'u' then hexCode c 4
    else if c = 'U' then hexCode c 8
    else if c = 'N' then namedCode
    else if isOctal c then do octalCode c (← takeWhile isOctal 2)
    else otherEscape c

/-- A reference to a group by its number; `digits` is its text. -/
def groupReference (digits : List Char) : Reader Escaped := do
  let number := valueOf 10 digits
  if number < (← groupCount) then
    match ← groupWidth? number with
    | none => fail .openReference (digits.length + 1)
    | some w =>
      checkBehind number
      return .reference number w
  else fail (.invalidReference number) digits.length

/-- A digit other than zero after a backslash: an octal code of three digits, or else a reference
of one or two digits. -/
def digitEscape (c : Char) : Reader Escaped := do
  match ← takeWhile Char.isDigit 1 with
  | [d] =>
    if isOctal c && isOctal d then
      match ← takeWhile isOctal 1 with
      | [e] => octalCode c [d, e]
      | _ => groupReference [c, d]
    else groupReference [c, d]
  | _ => groupReference [c]

/-- An escape outside of character sets. -/
def escape (c : Char) : Reader Escaped := do
  match (anchor? c).or (class? c), controlCode? c with
  | some e, _ => return e
  | none, some n => return .code n
  | none, none =>
    if c = 'x' then hexCode c 2
    else if c = 'u' then hexCode c 4
    else if c = 'U' then hexCode c 8
    else if c = 'N' then namedCode
    else if c = '0' then do return .code (valueOf 8 (← takeWhile isOctal 2))
    else if c.isDigit then digitEscape c
    else otherEscape c

/-- What a symbol inside a character set stands for. -/
def setMember (s : Symbol) : Reader Member := do
  match s with
  | .plain c => return .code c.toNat
  | .escaped c =>
    match ← setEscape c with
    | .code n => return .code n
    | .ofClass k negated => return .ofClass k negated
    | .anchor _ | .reference .. => return .code c.toNat

/-- The members of a character set that begins at `start`, up to its bracket. -/
def setMembers (start : Nat) (first : Bool) : Nat → Reader (List Member)
  | 0 => throw (.at .unterminatedSet start)
  | fuel + 1 => do
    match ← take? with
    | none => throw (.at .unterminatedSet start)
    | some this =>
      -- A bracket at the very start is a member.
      if this = .plain ']' ∧ !first then return []
      let low ← setMember this
      if ← accept '-' then
        match ← take? with
        | none => throw (.at .unterminatedSet start)
        | some that =>
          -- A hyphen at the very end is a member.
          if that = .plain ']' then return [low, .code '-'.toNat]
          let high ← setMember that
          let range? := match low, high with
            | .code l, .code h => if l ≤ h then some (Member.range l h) else none
            | _, _ => none
          match range? with
          | some range => return range :: (← setMembers start false fuel)
          | none =>
            fail (.badRange (.ofList this.text) (.ofList that.text))
              (this.text.length + 1 + that.text.length)
      else return low :: (← setMembers start false fuel)

/-- A character set whose opening bracket has been taken. -/
def characterSet : Reader Piece := do
  let start := (← tell) - 1
  let negated ← accept '^'
  let s ← get
  return .set negated (← setMembers start true (s.rest.length + 1))

end Reader

end ApiDoc.Pattern
