/-!
# Flags

A flag changes how an expression is read or how it matches. A group can turn flags on and off for
what stands in it.
-/

namespace ApiDoc.Pattern

/-- A flag that a pattern can set. -/
inductive Flag where
  | ignoreCase
  | locale
  | multiline
  | dotAll
  | verbose
  | ascii
  | template
  | unicode
  deriving DecidableEq, Repr

namespace Flag

/-- The flag that a letter stands for. -/
def ofChar? (c : Char) : Option Flag :=
  match c with
  | 'i' => some ignoreCase
  | 'L' => some locale
  | 'm' => some multiline
  | 's' => some dotAll
  | 'x' => some verbose
  | 'a' => some ascii
  | 't' => some template
  | 'u' => some unicode
  | _ => none

/-- Whether a flag says which characters are letters. -/
def isType : Flag → Bool
  | ascii | locale | unicode => true
  | _ => false

end Flag

/-- The flags that a group turns on and off. -/
structure FlagChange where
  on : List Flag := []
  off : List Flag := []
  deriving DecidableEq, Repr

namespace FlagChange

/-- The flags inside a group. A flag that says which characters are letters replaces the one
outside. -/
def apply (change : FlagChange) (flags : List Flag) : List Flag :=
  let kept := if change.on.any Flag.isType then flags.filter fun f => !f.isType else flags
  (kept ++ change.on).filter fun f => !change.off.contains f

end FlagChange

end ApiDoc.Pattern
