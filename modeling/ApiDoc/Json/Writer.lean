import ApiDoc.Text.Encoding
import ApiDoc.Value.Basic

/-!
# JSON text

**Layout.** `Json.compact` writes a value on one line, with a blank after each comma and colon;
`Json.indented` gives every entry its own line, two blanks further in than its parent. Characters
beyond ASCII stand for themselves. A tuple is written as a list.

**Keys.** A key that is a number, a truth value or null is written as the text of that value. Dates,
sets, byte strings, integers beyond a length and containers inside of themselves have no JSON form;
the first one met, in writing order, is the error.

**Broken text.** The text of a value can have codes that are no characters. Then a `Draft` tells the
first of them, and has the replacement character in their places.
-/

namespace ApiDoc.Json

/-- What has no JSON form. -/
inductive WriteError where
  /-- A value of a type that has none. -/
  | value (typeName : String)
  /-- A key of such a type. -/
  | key (typeName : String)
  /-- A container inside of itself. -/
  | circular
  /-- An integer with too many digits. -/
  | longInteger
  deriving DecidableEq, Repr

def WriteError.message : WriteError → String
  | value t => s!"Object of type {t} is not JSON serializable"
  | key t => s!"keys must be str, int, float, bool or None, not {t}"
  | circular => "Circular reference detected"
  | longInteger => Number.tooLong

/-- A text that is being written. -/
structure Draft where
  text : String := ""
  /-- The first codes that are no characters. -/
  flaw : Option Text.EncodingError := none

namespace Draft

def add (s : String) (d : Draft) : Draft := { d with text := d.text ++ s }

end Draft

/-- One character inside a string. -/
def escapedChar (c : Char) : List Char :=
  if c = '"' ∨ c = '\\' then ['\\', c]
  else if c = '\n' then ['\\', 'n']
  else if c = '\r' then ['\\', 'r']
  else if c = '\t' then ['\\', 't']
  else if c = '\x08' then ['\\', 'b']
  else if c = '\x0c' then ['\\', 'f']
  else if c.toNat < 0x20 then '\\' :: 'u' :: Text.hex 4 c.toNat
  else [c]

/-- A text in double quotes. -/
def quoted (s : String) : String :=
  .ofList ('"' :: (s.toList.flatMap escapedChar ++ ['"']))

/-- Adds codes in double quotes. -/
def Draft.addCodes (codes : List Nat) (d : Draft) : Draft :=
  let written := codes.map fun n => ((Text.charOf? n).map escapedChar).getD ['\uFFFD']
  let flaw := d.flaw.or <| (Text.EncodingError.find? .utf8 codes).map fun e =>
    { e with position := d.text.length + 1 + (written.take e.position).flatten.length }
  { text := d.text ++ .ofList ('"' :: (written.flatten ++ ['"'])), flaw }

/-- A number; the values that are not finite have names. -/
def numberText : Number → Except WriteError String
  | .int n => if Number.hasDecimalText n then .ok (toString n) else .error .longInteger
  | .float (.nan _) => .ok "NaN"
  | .float (.infinity s) => .ok (if s then "-Infinity" else "Infinity")
  | .float x => .ok x.text

/-- Adds the key of an object. -/
def addKey (key : Value) (d : Draft) : Except WriteError Draft :=
  match key with
  | .str s => .ok (d.add (quoted s))
  | .brokenText codes => .ok (d.addCodes codes)
  | .null => .ok (d.add (quoted "null"))
  | .bool b => .ok (d.add (quoted (if b then "true" else "false")))
  | .number n => (numberText n).map fun s => d.add (quoted s)
  | v => .error (.key v.typeName)

/-- The text before an entry: nothing on one line, a new line and `2 * level` blanks otherwise. -/
def lineBreak (indent : Bool) (level : Nat) : String :=
  if indent then .ofList ('\n' :: List.replicate (2 * level) ' ') else ""

/-- The text between two entries. -/
def separator (indent : Bool) (level : Nat) : String :=
  if indent then "," ++ lineBreak indent level else ", "

mutual

/-- Adds a value that stands at a level. -/
def write (indent : Bool) (level : Nat) (v : Value) (d : Draft) : Except WriteError Draft :=
  match v with
  | .null => .ok (d.add "null")
  | .bool b => .ok (d.add (if b then "true" else "false"))
  | .number n => (numberText n).map d.add
  | .str s => .ok (d.add (quoted s))
  | .brokenText codes => .ok (d.addCodes codes)
  | .list _ items | .tuple _ items => do
    if items.isEmpty then return d.add "[]"
    let d ← writeItems indent (level + 1) true items (d.add ("[" ++ lineBreak indent (level + 1)))
    return d.add (lineBreak indent level ++ "]")
  | .map _ entries => do
    if entries.isEmpty then return d.add "\x7b\x7d"
    let d ← writeEntries indent (level + 1) true entries
      (d.add ("\x7b" ++ lineBreak indent (level + 1)))
    return d.add (lineBreak indent level ++ "\x7d")
  | .again .. => .error .circular
  | v => .error (.value v.typeName)

/-- Adds the items of a list; `first` says that none stands before them. -/
def writeItems (indent : Bool) (level : Nat) (first : Bool) (vs : List Value) (d : Draft) :
    Except WriteError Draft :=
  match vs with
  | [] => .ok d
  | v :: vs => do
    let d ← write indent level v (if first then d else d.add (separator indent level))
    writeItems indent level false vs d

/-- Adds the entries of a mapping; `first` says that none stands before them. -/
def writeEntries (indent : Bool) (level : Nat) (first : Bool) (es : List (Value × Value))
    (d : Draft) :
    Except WriteError Draft :=
  match es with
  | [] => .ok d
  | (k, v) :: es => do
    let d ← addKey k (if first then d else d.add (separator indent level))
    let d ← write indent level v (d.add ": ")
    writeEntries indent level false es d

end

/-- The text of a value on one line. -/
def compact (v : Value) : Except WriteError String := (·.text) <$> write false 0 v {}

/-- The text of a value with one entry a line, and a newline at the end. -/
def indented (v : Value) : Except WriteError Draft := (·.add "\n") <$> write true 0 v {}

end ApiDoc.Json
