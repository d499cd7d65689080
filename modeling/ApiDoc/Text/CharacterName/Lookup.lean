import ApiDoc.Text.CharacterName.Abugidas
import ApiDoc.Text.CharacterName.Alias
import ApiDoc.Text.CharacterName.Alphabets
import ApiDoc.Text.CharacterName.AncientScripts
import ApiDoc.Text.CharacterName.Hangul
import ApiDoc.Text.CharacterName.Ideographs
import ApiDoc.Text.CharacterName.MinorScripts
import ApiDoc.Text.CharacterName.Notations
import ApiDoc.Text.CharacterName.Pictographs
import ApiDoc.Text.CharacterName.Signs
import ApiDoc.Text.CharacterName.Syllables
import ApiDoc.Text.CharacterName.Symbols

/-!
# Characters by their names

`characterNamed?` finds the character with a name. Most names are in tables; those of Hangul
syllables and ideographs follow a rule. The letter case of a name in a table does not count.
-/

namespace ApiDoc.Text

namespace CharacterName

/-- Ranges of code points. -/
abbrev Blocks := List (Nat × Nat)

/-- The unified ideographs. -/
def unified : Blocks :=
  [(0x3400, 0x4dbf), (0x4e00, 0x9fff), (0x20000, 0x2a6df), (0x2a700, 0x2b738), (0x2b740, 0x2b81d),
    (0x2b820, 0x2cea1), (0x2ceb0, 0x2ebe0), (0x30000, 0x3134a)]

/-- The families whose names end with a hyphen and the code point. -/
def families : List (String × Blocks) :=
  [("CJK COMPATIBILITY IDEOGRAPH-", [(0xf900, 0xfa6d), (0xfa70, 0xfad9), (0x2f800, 0x2fa1d)]),
    ("KHITAN SMALL SCRIPT CHARACTER-", [(0x18b00, 0x18cd5)]),
    ("NUSHU CHARACTER-", [(0x1b170, 0x1b2fb)])]

/-- Whether a code point is in one of some blocks. -/
def isIn (blocks : Blocks) (n : Nat) : Bool := blocks.any fun (a, b) => a ≤ n && n ≤ b

/-- The number that four or five digits write, in capital letters. -/
def codePoint? (cs : List Char) : Option Nat :=
  let isDigit (c : Char) : Bool := c.isDigit || ('A' ≤ c && c ≤ 'F')
  if (cs.length = 4 || cs.length = 5) && cs.all isDigit then some (hexadecimal cs) else none

/-- The text behind a beginning. -/
def behind? (beginning : String) (cs : List Char) : Option (List Char) :=
  if beginning.toList.isPrefixOf cs then some (cs.drop beginning.length) else none

/-- The member of a family with a name. Its code point has as few digits as can be, but four. -/
def member? (name : List Char) (family : String × Blocks) : Option Nat := do
  let digits ← behind? family.1 name
  let n ← codePoint? digits
  if isIn family.2 n && (digits.length = 4 || 0x10000 ≤ n) then some n else none

/-- The variation selector with an abbreviation. -/
def variation? (name : List Char) : Option Nat := do
  let digits ← behind? "VS" name
  let n := decimal digits
  if digits.all Char.isDigit && digits.head?.any (· ≠ '0') && n ≤ 256 then
    some (if n ≤ 16 then 0xfdff + n else 0xe00ef + n)
  else none

def tables : List Coded :=
  [alphabets, abugidas, syllables, symbols, ideographs, minorScripts, ancientScripts, signs,
    notations, pictographs]

/-- The character with a name in capital letters that is in a table or of a family. -/
def listed? (name : List Char) : Option Nat :=
  (tables.findSome? (·.find? name)).or <| (families.findSome? (member? name)).or <|
    (aliases.lookup (.ofList name)).or (variation? name)

end CharacterName

open CharacterName in
def characterNamed? (name : List Char) : Option Nat :=
  match behind? "HANGUL SYLLABLE " name, behind? "CJK UNIFIED IDEOGRAPH-" name with
  | some parts, _ => Hangul.syllable? parts
  | _, some digits => (codePoint? digits).filter (isIn unified)
  | none, none => listed? (name.map Char.toUpper)

end ApiDoc.Text
