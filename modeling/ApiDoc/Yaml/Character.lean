/-!
# Characters of YAML

The classes of characters that the rules of YAML speak of. The end of the text counts as a break and
as a blank wherever something has to be set apart, so those classes are on `Option Char`, where
`none` is the end.
-/

namespace ApiDoc.Yaml

/-- Whether a text may hold a character. -/
def isAllowed (c : Char) : Bool :=
  let n := c.toNat
  n == 0x9 || n == 0xA || n == 0xD || (0x20 ≤ n && n ≤ 0x7E) || n == 0x85
    || (0xA0 ≤ n && n ≤ 0xFFFD) || 0x10000 ≤ n

/-- Whether a character ends a line. -/
def isBreak (c : Char) : Bool := c = '\n' || c = '\x85' || c = '\u2028' || c = '\u2029'

/-- A line break as the value of a scalar holds it. -/
def breakValue (c : Char) : Char := if c = '\x85' then '\n' else c

def isBlank (c : Char) : Bool := c = ' ' || c = '\t'

/-- Whether a character is a blank or ends a line. -/
def isSpace (c : Char) : Bool := isBlank c || isBreak c

/-- Whether a line ends here. -/
def endsLine : Option Char → Bool
  | none => true
  | some c => isBreak c

/-- Whether a word ends here. -/
def endsWord : Option Char → Bool
  | none => true
  | some c => isSpace c

/-- Whether a line ends here or a space stands here. -/
def endsItem : Option Char → Bool
  | none => true
  | some c => c = ' ' || isBreak c

/-- Whether a character can stand in a name. -/
def isNameChar (c : Char) : Bool := c.isAlphanum || c = '-' || c = '_'

/-- Whether a character can stand in a tag, apart from those written by their codes. -/
def isTagChar (c : Char) : Bool :=
  c.isAlphanum || "-;/?:@&=+$,_.!~*'()[]".toList.contains c

/-- Whether a character starts or ends a flow collection or parts its entries. -/
def isFlowIndicator (c : Char) : Bool :=
  c = ',' || c = '[' || c = ']' || c = '\x7b' || c = '\x7d'

/-- Whether a character has a meaning of its own where a scalar could start. -/
def isIndicator (c : Char) : Bool :=
  isFlowIndicator c || "-?:#&*!|>'\"%@\x60".toList.contains c

end ApiDoc.Yaml
