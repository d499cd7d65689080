import ApiDoc.Text.Digits
import ApiDoc.Yaml.Cursor
import ApiDoc.Yaml.Error
import ApiDoc.Yaml.Scalar.Folding

/-!
# Quoted scalars

A scalar in single quotes escapes only the quote, by doubling it. A scalar in double quotes has
escapes that begin with a backslash: letters for control characters, codes of two, four or eight
digits, and line breaks that are to be left out. Line breaks without a backslash are folded. A code
can be one that no character has, so such a scalar is read as codes.
-/

namespace ApiDoc.Yaml.Scalar

/-- The character that a letter stands for after a backslash. -/
def escape? (c : Char) : Option Char :=
  [('0', '\x00'), ('a', '\x07'), ('b', '\x08'), ('t', '\t'), ('\t', '\t'), ('n', '\n'),
    ('v', '\x0b'), ('f', '\x0c'), ('r', '\r'), ('e', '\x1b'), (' ', ' '), ('"', '"'), ('\\', '\\'),
    ('/', '/'), ('N', '\x85'), ('_', '\xa0'), ('L', '\u2028'), ('P', '\u2029')].lookup c

/-- The number of digits of the code that a letter announces. -/
def codeLength? (c : Char) : Option Nat := [('x', 2), ('u', 4), ('U', 8)].lookup c

/-- Refuses a code beyond the last character. Codes of halves of pairs are let through. -/
def checkCode (n : Nat) : Except Error Unit :=
  if 0x10FFFF < n then .error (.scalar (.code n)) else .ok ()

/-- Where the reader of a quoted scalar is. -/
inductive QuotedState where
  | text (gap : Gap)
  /-- After a backslash. -/
  | escaped
  /-- Within the code of a character: the digits left and the value so far. -/
  | code (left value : Nat)
  /-- After a quote that may be the first of two. -/
  | quote

def quotedError {α : Type} : Except Error α := .error (.malformed .quoted)

/-- The scalar that begins one character earlier, which stands for `front`. -/
def onto {α : Type} (front : List α) (r : Except Error (List α × Nat)) :
    Except Error (List α × Nat) :=
  r.map fun (back, n) => (front ++ back, n + 1)

def codes (cs : List Char) : List Nat := cs.map Char.toNat

/-- The codes of the rest of a scalar in double quotes, and the number of its characters. -/
def doubleQuoted (state : QuotedState) : List Char → Except Error (List Nat × Nat)
  | [] => quotedError
  | c :: cs =>
    match state with
    | .escaped =>
      match escape? c, codeLength? c with
      | some e, _ => onto [e.toNat] (doubleQuoted (.text .none) cs)
      | none, some n => onto [] (doubleQuoted (.code n 0) cs)
      | none, none =>
        -- A backslash at the end of a line joins it to the next one.
        if isBreak c && !startsDocumentMark cs then onto [] (doubleQuoted (.text (.joined [])) cs)
        else quotedError
    | .code left value =>
      match Text.hexValue? c with
      | none => quotedError
      | some d =>
        let value := value * 16 + d
        if left ≤ 1 then
          match checkCode value with
          | .ok () => onto [value] (doubleQuoted (.text .none) cs)
          | .error e => .error e
        else onto [] (doubleQuoted (.code (left - 1) value) cs)
    | .text gap =>
      if isBlank c then onto [] (doubleQuoted (.text (gap.addBlank c)) cs)
      else if isBreak c then
        if startsDocumentMark cs then quotedError
        else onto [] (doubleQuoted (.text (gap.addBreak c)) cs)
      else if c = '"' then .ok (codes gap.value, 1)
      else if c = '\\' then onto (codes gap.value) (doubleQuoted .escaped cs)
      else onto (codes (gap.value ++ [c])) (doubleQuoted (.text .none) cs)
    | .quote => quotedError

/-- The rest of a scalar in single quotes, and the number of its characters. -/
def singleQuoted (state : QuotedState) : List Char → Except Error (List Char × Nat)
  | [] =>
    match state with
    | .quote => .ok ([], 0)
    | _ => quotedError
  | c :: cs =>
    match state with
    | .quote =>
      -- Two quotes are one character; one quote ends the scalar.
      if c = '\'' then onto ['\''] (singleQuoted (.text .none) cs) else .ok ([], 0)
    | .text gap =>
      if isBlank c then onto [] (singleQuoted (.text (gap.addBlank c)) cs)
      else if isBreak c then
        if startsDocumentMark cs then quotedError
        else onto [] (singleQuoted (.text (gap.addBreak c)) cs)
      else if c = '\'' then onto gap.value (singleQuoted .quote cs)
      else onto (gap.value ++ [c]) (singleQuoted (.text .none) cs)
    | _ => quotedError

end ApiDoc.Yaml.Scalar
