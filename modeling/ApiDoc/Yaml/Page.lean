import ApiDoc.Text.Quoted
import ApiDoc.Value.Basic
import ApiDoc.Yaml.Character

/-!
# Pages

A `Page` is YAML text that is being written, with what the next piece of text has to know about the
end of it: the column, whether a blank is there, and whether the line holds nothing but indentation
and indicators behind which a block can begin on the same line.
-/

namespace ApiDoc.Yaml

/-- A text that is being written. -/
structure Page where
  text : String := ""
  column : Nat := 0
  afterBlank : Bool := true
  /-- Whether a block can begin on this line. -/
  atIndent : Bool := true
  /-- The objects with an anchor that have been written. -/
  written : List Label := []

namespace Page

/-- The column behind which a line is broken where it can be. -/
def width : Nat := 80

def push (p : Page) (c : Char) : Page := { p with text := p.text.push c, column := p.column + 1 }

def write (p : Page) (cs : List Char) : Page := cs.foldl push p

def spaces (p : Page) (n : Nat) : Page := p.write (List.replicate n ' ')

/-- Breaks the line with a character. -/
def breakWith (p : Page) (c : Char) : Page :=
  { p with text := p.text.push c, column := 0, afterBlank := true, atIndent := true }

def breakLine (p : Page) : Page := p.breakWith '\n'

/-- Goes to a column, on a new line unless nothing but indentation is on this one. -/
def toIndent (n : Nat) (p : Page) : Page :=
  let p :=
    if !p.atIndent || n < p.column || (p.column = n && !p.afterBlank) then p.breakLine else p
  if p.column < n then { p.spaces (n - p.column) with afterBlank := true } else p

/-- Writes an indicator, behind a blank when it has to stand `apart`. -/
def indicator (cs : List Char) (apart : Bool) (p : Page) (blank : Bool := false)
    (opensBlock : Bool := false) : Page :=
  let p := if apart && !p.afterBlank then p.push ' ' else p
  { p.write cs with afterBlank := blank, atIndent := p.atIndent && opensBlock }

/-- The line so far holds something else than indentation. -/
def used (p : Page) : Page := { p with afterBlank := false, atIndent := false }

/-! ## Plain and single-quoted text -/

/-- Writes pending spaces in plain text; a single one can become a line break. -/
def plainGap (split : Bool) (n spaces : Nat) (p : Page) : Page :=
  if spaces = 1 ∧ width < p.column ∧ split then (p.toIndent n).used else p.spaces spaces

/-- Writes plain text; `spaces` is the number of spaces that are pending. -/
def plainFrom (split : Bool) (n spaces : Nat) : List Char → Page → Page
  | [], p => p.plainGap split n spaces
  | c :: cs, p =>
    if c = ' ' then plainFrom split n (spaces + 1) cs p
    else plainFrom split n 0 cs ((if spaces = 0 then p else p.plainGap split n spaces).push c)

/-- Writes plain text. -/
def plain (split : Bool) (n : Nat) (cs : List Char) (p : Page) : Page :=
  if cs.isEmpty then p
  else plainFrom split n 0 cs (if p.afterBlank then p else p.push ' ').used

/-- White space that is pending inside single quotes. -/
inductive Pending where
  | none
  | spaces (n : Nat)
  | breaks (cs : List Char)

/-- Writes pending white space. `canBreak` says that a single space can become a line break. A line
break takes an empty line more, since a single one would be read as a space. -/
def singleGap (canBreak : Bool) (n : Nat) (p : Page) : Pending → Page
  | .none => p
  | .spaces k => if k = 1 ∧ width < p.column ∧ canBreak then p.toIndent n else p.spaces k
  | .breaks cs =>
    let p := if cs.head? = some '\n' then p.breakLine else p
    (cs.foldl breakWith p).toIndent n

/-- Writes text inside single quotes. `started` says that text stands before the pending gap. -/
def singleFrom (split : Bool) (n : Nat) (started : Bool) (gap : Pending) :
    List Char → Page → Page
  | [], p => p.singleGap false n gap
  | c :: cs, p =>
    if c = ' ' then
      match gap with
      | .spaces k => singleFrom split n started (.spaces (k + 1)) cs p
      | gap => singleFrom split n (started || !(gap matches .none)) (.spaces 1) cs
          (p.singleGap (split && started) n gap)
    else if isBreak c then
      match gap with
      | .breaks bs => singleFrom split n started (.breaks (bs ++ [c])) cs p
      | gap => singleFrom split n (started || !(gap matches .none)) (.breaks [c]) cs
          (p.singleGap (split && started) n gap)
    else
      let p := p.singleGap (split && started) n gap
      singleFrom split n true .none cs (if c = '\'' then p.write ['\'', '\''] else p.push c)

/-- Writes text in single quotes. -/
def singleQuoted (split : Bool) (n : Nat) (cs : List Char) (p : Page) : Page :=
  (singleFrom split n false .none cs (p.indicator ['\''] true)).indicator ['\''] false

/-! ## Double-quoted text -/

/-- The letters that stand for characters behind a backslash. -/
def escapes : List (Char × Char) :=
  [('\x00', '0'), ('\x07', 'a'), ('\x08', 'b'), ('\t', 't'), ('\n', 'n'), ('\x0b', 'v'),
    ('\x0c', 'f'), ('\r', 'r'), ('\x1b', 'e'), ('"', '"'), ('\\', '\\'), ('\x85', 'N'),
    ('\xa0', '_'), ('\u2028', 'L'), ('\u2029', 'P')]

/-- Whether a code stands for itself inside double quotes. -/
def isUnescaped (n : Nat) : Bool :=
  n ≠ '"'.toNat && n ≠ '\\'.toNat && n ≠ 0xFEFF && n ≠ 0x2028 && n ≠ 0x2029 && n.isValidChar
    && ((0x20 ≤ n && n ≤ 0x7E) || (0xA0 ≤ n && n ≤ 0xFFFD))

/-- Digits of a code, in upper case. -/
def code (width n : Nat) : List Char := (Text.hex width n).map Char.toUpper

/-- A code behind a backslash. -/
def escaped (n : Nat) : List Char :=
  match escapes.find? fun (c, _) => c.toNat = n with
  | some (_, e) => ['\\', e]
  | none =>
    if n ≤ 0xFF then '\\' :: 'x' :: code 2 n
    else if n ≤ 0xFFFF then '\\' :: 'u' :: code 4 n
    else '\\' :: 'U' :: code 8 n

/-- Breaks the line inside double quotes. A space that follows is escaped, so that it counts. -/
def splitDouble (n : Nat) (next : Option Nat) (p : Page) : Page :=
  let p := ((p.push '\\').toIndent n).used
  if next = some ' '.toNat then p.push '\\' else p

/-- Writes codes inside double quotes. `first` says that nothing has been written, `fresh` that the
line can be broken before any character, as at its start and behind an escaped character. -/
def doubleFrom (split : Bool) (n : Nat) (first fresh : Bool) : List Nat → Page → Page
  | [], p => p
  | c :: cs, p =>
    let inside := split && !first && !cs.isEmpty
    if isUnescaped c then
      let p :=
        if inside && (c = ' '.toNat || fresh) && width < p.column then p.splitDouble n (some c)
        else p
      doubleFrom split n false false cs (p.push (.ofNat c))
    else
      let p := p.write (escaped c)
      let p := if inside && width + 1 < p.column then p.splitDouble n cs.head? else p
      doubleFrom split n false true cs p

/-- Writes codes in double quotes. -/
def doubleQuoted (split : Bool) (n : Nat) (codes : List Nat) (p : Page) : Page :=
  (doubleFrom split n true true codes (p.indicator ['"'] true)).indicator ['"'] false

/-! ## Literal text -/

/-- Writes lines as they are, behind the indicator of literal text. -/
def literal (n : Nat) (lines : List (List Char)) (p : Page) : Page :=
  lines.foldl (fun p line => ((p.toIndent n).write line).breakLine)
    (p.indicator ['|'] true).breakLine

end Page

end ApiDoc.Yaml
