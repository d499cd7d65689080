import ApiDoc.Pattern.Flag

/-!
# Expressions

The tree of a regular expression.

**Width.** The width of a piece is the least and the greatest number of characters that it matches.
Widths are cut at `maxRepeat`, the greatest of which stands for "no bound".
-/

namespace ApiDoc.Pattern

/-- How often a repeated piece tries to match. -/
inductive RepeatMode where
  | greedy
  | lazy
  | possessive
  deriving DecidableEq, Repr

/-- The least and the greatest number of characters that something matches. -/
structure Width where
  low : Nat
  high : Nat
  deriving DecidableEq, Repr

/-- The repetition number that stands for "no bound", and the least that is refused. -/
def maxRepeat : Nat := 0xffffffff

inductive CharClass where
  | digit
  | blank
  | word
  deriving DecidableEq, Repr

/-- A part of a set of characters. Characters are given by their code points. -/
inductive Member where
  | code (n : Nat)
  | range (first last : Nat)
  /-- The characters of a class, or all others. -/
  | ofClass (class_ : CharClass) (negated : Bool)
  deriving DecidableEq, Repr

/-- A place between characters. -/
inductive Anchor where
  /-- The beginning of the text, or of a line. -/
  | lineStart
  /-- The end of the text or in front of its last newline, or the end of a line. -/
  | lineEnd
  | textStart
  | textEnd
  /-- Between a word and what is no word. -/
  | wordEdge
  | noWordEdge
  deriving DecidableEq, Repr

/-- A piece of an expression; an expression is a list of pieces that match one after the other. -/
inductive Piece where
  /-- One character. -/
  | char (code : Nat)
  /-- Any character. -/
  | any
  /-- One character of a set, or one that is not in it. -/
  | set (negated : Bool) (members : List Member)
  | anchor (a : Anchor)
  /-- What a group has matched; its width is known because the group is closed. -/
  | reference (group : Nat) (width : Width)
  /-- A group, with its number if it captures. -/
  | group (number : Option Nat) (change : FlagChange) (body : List Piece)
  /-- A group of which only the first way to match counts. -/
  | atomic (body : List Piece)
  /-- A condition on what comes next, or on what came before. -/
  | look (behind negated : Bool) (body : List Piece)
  /-- A piece, repeated at least `low` times and at most `high` times. -/
  | repeated (mode : RepeatMode) (low : Nat) (high : Option Nat) (body : List Piece)
  /-- One of several expressions. -/
  | branches (bodies : List (List Piece))
  /-- One of two expressions, depending on whether a group has matched. -/
  | conditional (group : Nat) (yes no : List Piece)

namespace Width

/-- The width of nothing. -/
def zero : Width := ⟨0, 0⟩

/-- The width of one character. -/
def one : Width := ⟨1, 1⟩

/-- Cuts a width at the bound, below which its least number stays. -/
def cut (w : Width) : Width := ⟨min w.low (maxRepeat - 1), min w.high maxRepeat⟩

/-- One after the other. -/
def add (a b : Width) : Width := ⟨a.low + b.low, a.high + b.high⟩

/-- One or the other. -/
def either (a b : Width) : Width := ⟨min a.low b.low, max a.high b.high⟩

/-- So many times. -/
def times (w : Width) (low : Nat) (high : Option Nat) : Width :=
  ⟨w.low * low, w.high * high.getD maxRepeat⟩

end Width

mutual

def Piece.width : Piece → Width
  | .char _ | .any | .set .. => .one
  | .anchor _ => .zero
  | .reference _ w => w
  | .group _ _ body | .atomic body => widthOf body
  | .look .. => .zero
  | .repeated _ low high body => (widthOf body).times low high
  | .branches bodies => widthOfBranches bodies
  | .conditional _ yes no => (widthOf yes).either (widthOf no)

/-- The width of an expression. -/
def widthOf (pieces : List Piece) : Width := (sumWidths pieces).cut

/-- The widths of pieces, added up. -/
def sumWidths : List Piece → Width
  | [] => .zero
  | p :: ps => p.width.add (sumWidths ps)

/-- The width of one of several expressions. -/
def widthOfBranches : List (List Piece) → Width
  | [] => .zero
  | [b] => widthOf b
  | b :: bs => (widthOf b).either (widthOfBranches bs)

end

/-- A whole expression, with the flags that hold for all of it. -/
structure Expression where
  body : List Piece
  flags : List Flag

end ApiDoc.Pattern
