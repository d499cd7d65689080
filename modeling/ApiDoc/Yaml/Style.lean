import ApiDoc.Yaml.Tag

/-!
# Styles of scalars

A text is written plain where it would be read as the same text: when it has no character of
special meaning at a place where that counts, and is not read as a value of another type. Otherwise
it is written in single quotes, unless that would lose white space or characters without a printed
form, which only double quotes can hold.
-/

namespace ApiDoc.Yaml

/-- How a scalar is written. -/
inductive Style where
  | plain
  | single
  | double
  deriving DecidableEq, Repr

namespace Style

/-- Whether a character is written only by its code. -/
def isSpecial (c : Char) : Bool :=
  let n := c.toNat
  !(c = '\n' || (0x20 ≤ n && n ≤ 0x7E)
    || ((n = 0x85 || (0xA0 ≤ n && n ≤ 0xFFFD) || (0x10000 ≤ n && n < 0x10FFFF)) && c ≠ '\uFEFF'))

/-- Whether a character sets apart what is beside it. -/
def isApart (c : Char) : Bool := isSpace c || c = '\x00' || c = '\r'

/-- Whether a word ends before a text. -/
def endsHere (cs : List Char) : Bool := (cs.head?.map isApart).getD true

/-- Whether two characters stand side by side in a text. -/
def hasPair (p q : Char → Bool) : List Char → Bool
  | a :: b :: cs => (p a && q b) || hasPair p q (b :: cs)
  | _ => false

/-- Whether a text starts like another token. -/
def startsLikeToken : List Char → Bool
  | [] => false
  | c :: cs =>
    ['-', '-', '-'].isPrefixOf (c :: cs) || ['.', '.', '.'].isPrefixOf (c :: cs)
      || "#,[]\x7b\x7d&*!|>'\"%@\x60".toList.contains c
      || ((c = '?' || c = ':' || c = '-') && endsHere cs)

/-- Whether a colon that ends a word, or a number sign that begins one, stands in a text.
`before` says that a word ends in front of the text. -/
def holdsToken (before : Bool) : List Char → Bool
  | [] => false
  | c :: cs => (c = ':' && endsHere cs) || (c = '#' && before) || holdsToken (isApart c) cs

/-- Whether a text stands on one line, without blanks at its ends. -/
def isLine (cs : List Char) : Bool :=
  !cs.any isBreak && cs.head? ≠ some ' ' && cs.getLast? ≠ some ' '

/-- Whether a text can stand in single quotes. -/
def fitsSingle (cs : List Char) : Bool :=
  !hasPair isBreak (· = ' ') cs && !hasPair (· = ' ') isBreak cs && !cs.any isSpecial

/-- Whether a text can stand without quotes. -/
def fitsPlain (cs : List Char) : Bool :=
  match cs with
  | [] => true
  | c :: rest =>
    isLine cs && fitsSingle cs && !startsLikeToken cs && !holdsToken (isApart c) rest

/-- The style of a text. `readsBack` says that it is read as the same value without quotes, and
`asKey` that it is a key on a line of its own. -/
def choose (readsBack asKey : Bool) (cs : List Char) : Style :=
  if readsBack && fitsPlain cs && !(asKey && cs.isEmpty) then plain
  else if fitsSingle cs && !(asKey && cs.any isBreak) then single
  else double

end Style

end ApiDoc.Yaml
