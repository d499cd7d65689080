import ApiDoc.Pattern.Error

/-!
# The characters of a pattern

A pattern is read character by character, a backslash together with the character after it. A
backslash at the very end is a fault as soon as it is next, before anything else is found there.
-/

namespace ApiDoc.Pattern

/-- A character, or an escaped one. -/
inductive Symbol where
  | plain (c : Char)
  | escaped (c : Char)
  deriving DecidableEq, Repr

/-- The text of a symbol. -/
def Symbol.text : Symbol → List Char
  | plain c => [c]
  | escaped c => ['\\', c]

/-- A symbol and the position at which it begins; no symbol is the backslash at the end. -/
structure Token where
  symbol : Option Symbol
  position : Nat
  deriving DecidableEq, Repr

/-- The tokens of a text that begins at a position. -/
def tokens (position : Nat) : List Char → List Token
  | [] => []
  | '\\' :: c :: cs => ⟨some (.escaped c), position⟩ :: tokens (position + 2) cs
  | c :: cs =>
    if c = '\\' then [⟨none, position⟩] else ⟨some (.plain c), position⟩ :: tokens (position + 1) cs

end ApiDoc.Pattern
