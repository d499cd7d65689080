import ApiDoc.Pattern.Tree
import ApiDoc.Text.Property.Blank
import ApiDoc.Text.Property.CaseVariant
import ApiDoc.Text.Property.Digit
import ApiDoc.Text.Property.Word

/-!
# Matching single characters

The flags say which characters a class has, and whether the variants of a letter match each other.
-/

namespace ApiDoc.Pattern

/-- The white space of ASCII. -/
def isPlainBlank (c : Char) : Bool := c ∈ [' ', '\t', '\n', '\r', '\x0b', '\x0c']

def CharClass.contains (flags : List Flag) (c : Char) : CharClass → Bool
  | digit => if flags.contains .ascii then c.isDigit else Text.isDecimal c
  | blank => if flags.contains .ascii then isPlainBlank c else Text.isBlank c
  | word => if flags.contains .ascii then c.isAlphanum || c = '_' else Text.isWord c

/-- The code points that match wherever a character does. -/
def variants (flags : List Flag) (c : Char) : List Nat :=
  if !flags.contains .ignoreCase then [c.toNat]
  else if flags.contains .ascii then [c.toNat, c.toLower.toNat, c.toUpper.toNat]
  else Text.caseVariants c

/-- Whether a character is in a part of a set. -/
def Member.contains (flags : List Flag) (c : Char) : Member → Bool
  | code n => (variants flags c).contains n
  | range first last => (variants flags c).any fun n => first ≤ n && n ≤ last
  | ofClass k negated => k.contains flags c != negated

/-- Whether two characters are the same for a reference to a group. -/
def sameAs (flags : List Flag) (a b : Char) : Bool :=
  if !flags.contains .ignoreCase then a = b
  else if flags.contains .ascii then a.toLower = b.toLower
  else Text.lowerChar a = Text.lowerChar b

/-- Whether an anchor holds between the characters in front of a place, nearest first, and those
after it. -/
def Anchor.holds (flags : List Flag) (before after : List Char) : Anchor → Bool
  | textStart => before.isEmpty
  | textEnd => after.isEmpty
  | lineStart => before.isEmpty || flags.contains .multiline && before.head? = some '\n'
  | lineEnd =>
    after.isEmpty || after = ['\n'] || flags.contains .multiline && after.head? = some '\n'
  | wordEdge => isWordAt before != isWordAt after
  | noWordEdge => !(before.isEmpty && after.isEmpty) && isWordAt before == isWordAt after
where
  /-- Whether the first character is a part of a word. -/
  isWordAt : List Char → Bool
    | c :: _ => CharClass.word.contains flags c
    | [] => false

end ApiDoc.Pattern
