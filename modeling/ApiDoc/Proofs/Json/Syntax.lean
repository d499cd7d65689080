import ApiDoc.Json.Reader
import ApiDoc.Text.Utf8
import ApiDoc.Yaml.Character

/-!
# The syntax of JSON

A JSON text as a tree that says all of how it is written: the spelling of each number and each
character of a string, and the white space between. The tree gives the text (`Source.chars`) and
what the text stands for (`Source.value`). A text with an escape for one unit of a pair has no tree.

**White space.** A file reader makes every line end a line feed, which changes nothing but white
space. So the text of a tree is written for any form that white space is given: `Source.written
Space.chars` is the text itself, and `Source.written Space.unified` the text as it is read.

**The common part.** Not every JSON text stands for the same in YAML 1.1. `Source.IsCommon` says
that nothing is written in it that YAML refuses or reads as something else:

- white space without tabs,
- the colon of an entry on the line of its key, at most 1024 characters behind its opening quote,
- no exponent of a number without a point before it, and no exponent without a sign,
- integers of at most 4300 digits,
- in strings, only characters for themselves that YAML allows and that end no line.
-/

namespace ApiDoc.Json

/-! ## Parts of a text -/

inductive Blank where
  | space
  | tab
  | lineFeed
  | carriageReturn
  deriving DecidableEq

def Blank.char : Blank → Char
  | space => ' '
  | tab => '\t'
  | lineFeed => '\n'
  | carriageReturn => '\r'

abbrev Space := List Blank

def Space.chars (s : Space) : List Char := s.map Blank.char

/-- White space with every line ended by a line feed. -/
def Space.unified (s : Space) : List Char := Text.unifyLines s.chars

/-- Whether a character can stand for itself in a string. -/
def isRaw (c : Char) : Bool := 0x20 ≤ c.toNat && c ≠ '"' && c ≠ '\\'

/-- A character of a string as it is written. -/
inductive Letter where
  /-- The character itself. -/
  | raw (c : Char) (h : isRaw c = true)
  /-- A letter behind a backslash. -/
  | short (letter c : Char) (h : escape? letter = some c)
  /-- Four hexadecimal digits behind `\u`. -/
  | code (a b c d : Char) (n : Nat) (h : unit? a b c d = some n) (hchar : n.isValidChar)

namespace Letter

/-- How the character is written. -/
def chars : Letter → List Char
  | raw c _ => [c]
  | short letter _ _ => ['\\', letter]
  | code a b c d _ _ _ => ['\\', 'u', a, b, c, d]

/-- The character that is meant. -/
def value : Letter → Char
  | raw c _ => c
  | short _ c _ => c
  | code _ _ _ _ n _ _ => .ofNat n

end Letter

/-- The characters of a string, without its quotes. -/
def letterChars (ls : List Letter) : List Char := ls.flatMap Letter.chars

/-- A string in its quotes. -/
def stringChars (ls : List Letter) : List Char := '"' :: (letterChars ls ++ ['"'])

def stringValue (ls : List Letter) : String := .ofList (ls.map Letter.value)

abbrev Digits := { cs : List Char // cs ≠ [] ∧ ∀ c ∈ cs, c.isDigit = true }

structure Exponent where
  capital : Bool
  /-- The sign, which is negative or not; there may be none. -/
  sign : Option Bool
  digits : Digits

namespace Exponent

/-- How the exponent is written. -/
def chars (e : Exponent) : List Char :=
  (if e.capital then 'E' else 'e') ::
    ((e.sign.elim [] fun negative => if negative then ['-'] else ['+']) ++ e.digits.1)

/-- The exponent that is meant. -/
def value (e : Exponent) : Int :=
  if e.sign = some true then -(Text.decimal e.digits.1 : Int) else Text.decimal e.digits.1

end Exponent

/-- A number as it is written. -/
structure Numeral where
  negative : Bool
  whole : Digits
  /-- No zero leads other digits. -/
  lead : whole.1.head? = some '0' → whole.1 = ['0']
  fraction : Option Digits
  exponent : Option Exponent

namespace Numeral

/-- The digits behind the point. -/
def places (n : Numeral) : List Char := n.fraction.elim [] (·.1)

/-- How the number is written, without its sign. -/
def magnitudeChars (n : Numeral) : List Char :=
  n.whole.1 ++ (n.fraction.elim [] (fun ds => '.' :: ds.1) ++ n.exponent.elim [] Exponent.chars)

/-- How the number is written. -/
def chars (n : Numeral) : List Char :=
  if n.negative then '-' :: n.magnitudeChars else n.magnitudeChars

/-- Whether the number is written as an integer. -/
def isInteger (n : Numeral) : Bool := n.fraction.isNone && n.exponent.isNone

/-- The number with a point or an exponent. -/
def decimal (n : Numeral) : Decimal :=
  { negative := n.negative
    digits := Text.decimal (n.whole.1 ++ n.places)
    exponent := (n.exponent.elim 0 Exponent.value) - n.places.length }

/-- The number that is meant. -/
def value (n : Numeral) : Number :=
  if n.isInteger then
    .int (if n.negative then -(Text.decimal n.whole.1 : Int) else Text.decimal n.whole.1)
  else .float n.decimal.toBinary64

end Numeral

/-- A value without parts. -/
inductive Scalar where
  | null
  | bool (b : Bool)
  | number (n : Numeral)
  | string (ls : List Letter)

namespace Scalar

/-- How the value is written. -/
def chars : Scalar → List Char
  | null => ['n', 'u', 'l', 'l']
  | bool true => ['t', 'r', 'u', 'e']
  | bool false => ['f', 'a', 'l', 's', 'e']
  | number n => n.chars
  | string ls => stringChars ls

/-- The value that is meant. -/
def value : Scalar → Value
  | null => .null
  | bool b => .bool b
  | number n => .number n.value
  | string ls => .str (stringValue ls)

end Scalar

/-- The key of an entry, with the white space around it. -/
structure Key where
  before : Space
  letters : List Letter
  after : Space

/-- The key in its quotes, between its white space, and the colon. -/
def Key.written (white : Space → List Char) (k : Key) : List Char :=
  white k.before ++ (stringChars k.letters ++ (white k.after ++ [':']))

/-! ## Texts -/

mutual

/-- A value as it is written. -/
inductive Tree where
  | scalar (s : Scalar)
  | emptyArray (space : Space)
  | array (items : Items)
  | emptyObject (space : Space)
  | object (members : Members)

/-- The items of an array, each with the white space around it. -/
inductive Items where
  | last (before : Space) (item : Tree) (after : Space)
  | more (before : Space) (item : Tree) (after : Space) (rest : Items)

/-- The entries of an object, each with the white space around it. -/
inductive Members where
  | last (key : Key) (before : Space) (item : Tree) (after : Space)
  | more (key : Key) (before : Space) (item : Tree) (after : Space) (rest : Members)

end

mutual

def Tree.written (white : Space → List Char) : Tree → List Char
  | .scalar s => s.chars
  | .emptyArray space => '[' :: (white space ++ [']'])
  | .array items => '[' :: (items.written white ++ [']'])
  | .emptyObject space => '\x7b' :: (white space ++ ['\x7d'])
  | .object members => '\x7b' :: (members.written white ++ ['\x7d'])

def Items.written (white : Space → List Char) : Items → List Char
  | .last before item after => white before ++ (item.written white ++ white after)
  | .more before item after rest =>
    white before ++ (item.written white ++ (white after ++ ',' :: rest.written white))

def Members.written (white : Space → List Char) : Members → List Char
  | .last key before item after =>
    key.written white ++ (white before ++ (item.written white ++ white after))
  | .more key before item after rest =>
    key.written white ++
      (white before ++ (item.written white ++ (white after ++ ',' :: rest.written white)))

end

mutual

/-- The value that is meant. -/
def Tree.value : Tree → Value
  | .scalar s => s.value
  | .emptyArray _ => .listOf []
  | .array items => .listOf items.values
  | .emptyObject _ => .map .none []
  | .object members => .map .none (Entries.ofList members.entries)

def Items.values : Items → List Value
  | .last _ item _ => [item.value]
  | .more _ item _ rest => item.value :: rest.values

/-- The entries that are written, in order. -/
def Members.entries : Members → List (Value × Value)
  | .last key _ item _ => [(.str (stringValue key.letters), item.value)]
  | .more key _ item _ rest => (.str (stringValue key.letters), item.value) :: rest.entries

end

/-- A text: a value with white space around it. -/
structure Source where
  before : Space
  tree : Tree
  after : Space

namespace Source

def written (white : Space → List Char) (s : Source) : List Char :=
  white s.before ++ (s.tree.written white ++ white s.after)

def chars (s : Source) : List Char := s.written Space.chars

def value (s : Source) : Value := s.tree.value

end Source

/-! ## The part that JSON and YAML have in common -/

/-- White space without tabs. -/
def Space.IsCommon (s : Space) : Prop := Blank.tab ∉ s

/-- A character for itself that YAML allows and that ends no line. -/
def Letter.IsCommon : Letter → Prop
  | raw c _ => Yaml.isAllowed c = true ∧ Yaml.isBreak c = false
  | short .. | code .. => True

/-- A point before every exponent and a sign in it, and an integer that is not too long. -/
def Numeral.IsCommon (n : Numeral) : Prop :=
  match n.exponent with
  | none => n.fraction.isSome = true ∨ n.whole.1.length ≤ 4300
  | some e => n.fraction.isSome = true ∧ e.sign.isSome = true

/-- A scalar with such parts. -/
def Scalar.IsCommon : Scalar → Prop
  | null | bool _ => True
  | number n => n.IsCommon
  | string ls => ∀ l ∈ ls, l.IsCommon

/-- A key of such characters whose colon is on its line and near. -/
structure Key.IsCommon (k : Key) : Prop where
  before : k.before.IsCommon
  letters : ∀ l ∈ k.letters, l.IsCommon
  after : ∀ b ∈ k.after, b = .space
  near : (stringChars k.letters).length + k.after.length ≤ 1024

mutual

/-- A value with such parts. -/
def Tree.IsCommon : Tree → Prop
  | .scalar s => s.IsCommon
  | .emptyArray space | .emptyObject space => space.IsCommon
  | .array items => items.IsCommon
  | .object members => members.IsCommon

def Items.IsCommon : Items → Prop
  | .last before item after => before.IsCommon ∧ item.IsCommon ∧ after.IsCommon
  | .more before item after rest => before.IsCommon ∧ item.IsCommon ∧ after.IsCommon ∧ rest.IsCommon

def Members.IsCommon : Members → Prop
  | .last key before item after => key.IsCommon ∧ before.IsCommon ∧ item.IsCommon ∧ after.IsCommon
  | .more key before item after rest =>
    key.IsCommon ∧ before.IsCommon ∧ item.IsCommon ∧ after.IsCommon ∧ rest.IsCommon

end

def Source.IsCommon (s : Source) : Prop := s.before.IsCommon ∧ s.tree.IsCommon ∧ s.after.IsCommon

/-! ### Deciding it -/

instance (s : Space) : Decidable s.IsCommon := inferInstanceAs (Decidable (_ ∉ s))

instance : (l : Letter) → Decidable l.IsCommon
  | .raw .. => inferInstanceAs (Decidable (_ ∧ _))
  | .short .. | .code .. => isTrue trivial

instance : (n : Numeral) → Decidable n.IsCommon
  | ⟨_, _, _, _, none⟩ => inferInstanceAs (Decidable (_ ∨ _))
  | ⟨_, _, _, _, some _⟩ => inferInstanceAs (Decidable (_ ∧ _))

instance : (s : Scalar) → Decidable s.IsCommon
  | .null | .bool _ => isTrue trivial
  | .number n => inferInstanceAs (Decidable n.IsCommon)
  | .string ls => inferInstanceAs (Decidable (∀ l ∈ ls, l.IsCommon))

instance (k : Key) : Decidable k.IsCommon :=
  decidable_of_iff
    (k.before.IsCommon ∧ (∀ l ∈ k.letters, l.IsCommon) ∧ (∀ b ∈ k.after, b = .space) ∧
      (stringChars k.letters).length + k.after.length ≤ 1024)
    ⟨fun h => ⟨h.1, h.2.1, h.2.2.1, h.2.2.2⟩, fun h => ⟨h.before, h.letters, h.after, h.near⟩⟩

mutual

/-- Decides whether a value has only such parts. -/
def Tree.decideIsCommon : (t : Tree) → Decidable t.IsCommon
  | .scalar s => inferInstanceAs (Decidable s.IsCommon)
  | .emptyArray space | .emptyObject space => inferInstanceAs (Decidable space.IsCommon)
  | .array items => items.decideIsCommon
  | .object members => members.decideIsCommon

/-- Decides whether items have only such parts. -/
def Items.decideIsCommon : (items : Items) → Decidable items.IsCommon
  | .last before item after =>
    have := item.decideIsCommon
    inferInstanceAs (Decidable (before.IsCommon ∧ item.IsCommon ∧ after.IsCommon))
  | .more before item after rest =>
    have := item.decideIsCommon
    have := rest.decideIsCommon
    inferInstanceAs (Decidable (before.IsCommon ∧ item.IsCommon ∧ after.IsCommon ∧ rest.IsCommon))

/-- Decides whether entries have only such parts. -/
def Members.decideIsCommon : (members : Members) → Decidable members.IsCommon
  | .last key before item after =>
    have := item.decideIsCommon
    inferInstanceAs (Decidable (key.IsCommon ∧ before.IsCommon ∧ item.IsCommon ∧ after.IsCommon))
  | .more key before item after rest =>
    have := item.decideIsCommon
    have := rest.decideIsCommon
    inferInstanceAs
      (Decidable (key.IsCommon ∧ before.IsCommon ∧ item.IsCommon ∧ after.IsCommon ∧ rest.IsCommon))

end

instance (s : Source) : Decidable s.IsCommon :=
  have := s.tree.decideIsCommon
  inferInstanceAs (Decidable (s.before.IsCommon ∧ s.tree.IsCommon ∧ s.after.IsCommon))

end ApiDoc.Json
