import ApiDoc.Pattern.Character

/-!
# Matching

An expression matches a text where its pieces match one after the other. The ways to match are tried
in order: the branches from left to right, a greedy repeat first with one more round and a lazy one
first with none. The first way on which everything that follows matches too is taken.

**Rounds.** A repeat does not begin a round where the round before it began, once it has its least
number. So the rounds beyond that number are at most one more than the characters that are left.

**Places.** A place splits the text in what stands before it, nearest first, and what comes after
it.
-/

namespace ApiDoc.Pattern

/-- A place in a text, with the places at which groups began and ended last. -/
structure Place where
  before : List Char
  after : List Char
  starts : List (Nat × Nat) := []
  ends : List (Nat × Nat) := []

/-- What has to match from a place on: the place at which it ends. -/
abbrev Next := Place → Option Place

namespace Place

/-- The number of characters before a place. -/
def position (p : Place) : Nat := p.before.length

/-- Where a group has matched: its beginning and its end. -/
def span? (p : Place) (group : Nat) : Option (Nat × Nat) := do
  let start ← p.starts.lookup group
  let stop ← p.ends.lookup group
  if start ≤ stop then some (start, stop) else none

/-- The text that a group has matched. -/
def textOf? (p : Place) (group : Nat) : Option (List Char) := do
  let (start, stop) ← p.span? group
  return ((p.before.reverse ++ p.after).drop start).take (stop - start)

/-- The place a number of characters back. -/
def back? (p : Place) : Nat → Option Place
  | 0 => some p
  | n + 1 =>
    match p.before with
    | c :: cs => back? { p with before := cs, after := c :: p.after } n
    | [] => none

/-- Passes a character with a property. -/
def pass (test : Char → Bool) (next : Next) (p : Place) : Option Place :=
  match p.after with
  | c :: cs => if test c then next { p with before := c :: p.before, after := cs } else none
  | [] => none

def passAll (same : Char → Char → Bool) : List Char → Next → Next
  | [], next, p => next p
  | c :: cs, next, p => p.pass (same c) (passAll same cs next)

end Place

/-! ## Repeats -/

/-- So many rounds. -/
def rounds (round : Next → Next) : Nat → Next → Next
  | 0, next, p => next p
  | n + 1, next, p => round (fun q => rounds round n next q) p

/-- At most so many rounds, of which the one before began at `last`. -/
def furtherRounds (round : Next → Next) (lazy : Bool) : Nat → Option Nat → Next → Next
  | 0, _, next, p => next p
  | n + 1, last, next, p =>
    if last = some p.position then next p
    else
      let again (_ : Unit) := round (furtherRounds round lazy n (some p.position) next) p
      if lazy then (next p).or (again ())
      else
        match again () with
        | some q => some q
        | none => next p

/-- So many rounds, each matched on its own. -/
def ownRounds (round : Next → Next) : Nat → Next
  | 0, p => some p
  | n + 1, p =>
    match round some p with
    | some q => ownRounds round n q
    | none => none

/-- At most so many rounds, each matched on its own. -/
def furtherOwnRounds (round : Next → Next) : Nat → Option Nat → Place → Place
  | 0, _, p => p
  | n + 1, last, p =>
    if last = some p.position then p
    else
      match round some p with
      | some q => furtherOwnRounds round n (some p.position) q
      | none => p

/-- A repeat, `low` to `high` times. -/
def repeatMatch (round : Next → Next) (mode : RepeatMode) (low : Nat) (high : Option Nat)
    (next : Next) (p : Place) : Option Place :=
  let more (p : Place) : Nat :=
    let enough := p.after.length + 2
    match high with
    | some h => min (h - low) enough
    | none => enough
  match mode with
  | .greedy => rounds round low (fun q => furtherRounds round false (more q) none next q) p
  | .lazy => rounds round low (fun q => furtherRounds round true (more q) none next q) p
  | .possessive => do
    let q ← ownRounds round low p
    next (furtherOwnRounds round (more q) none q)

/-! ## Pieces -/

/-- A condition on the text from a number of characters back on. What groups match in it stays. -/
def lookMatch (body : Next → Next) (negated : Bool) (back : Nat) (next : Next) (p : Place) :
    Option Place :=
  match (p.back? back).bind (body some), negated with
  | some q, false => next { p with starts := q.starts, ends := q.ends }
  | none, true => next p
  | _, _ => none

mutual

/-- Matches a piece, and what has to match after it. -/
def Piece.matchThen (flags : List Flag) : Piece → Next → Next
  | .char n => Place.pass fun c => (variants flags c).contains n
  | .any => Place.pass fun c => c ≠ '\n' || flags.contains .dotAll
  | .set negated members => Place.pass fun c => members.any (·.contains flags c) != negated
  | .anchor a => fun next p => if a.holds flags p.before p.after then next p else none
  | .reference group _ => fun next p =>
    match p.textOf? group with
    | some cs => Place.passAll (sameAs flags) cs next p
    | none => none
  | .group none change body => matchAll (change.apply flags) body
  -- The end of the body is known before what comes after it is tried.
  | .group (some n) change body => fun next p =>
    matchAll (change.apply flags) body (fun q => next { q with ends := (n, q.position) :: q.ends })
      { p with starts := (n, p.position) :: p.starts }
  | .atomic body => fun next p => (matchAll flags body some p).bind next
  | .look behind negated body =>
    lookMatch (matchAll flags body) negated (if behind then (widthOf body).low else 0)
  | .repeated mode low high body => repeatMatch (matchAll flags body) mode low high
  | .branches bodies => matchSome flags bodies
  | .conditional group yes no => fun next p =>
    if (p.span? group).isSome then matchAll flags yes next p else matchAll flags no next p

/-- Matches pieces one after the other, and what has to match after them. -/
def matchAll (flags : List Flag) : List Piece → Next → Next
  | [], next => next
  | p :: ps, next => p.matchThen flags (matchAll flags ps next)

/-- Matches one of several expressions, and what has to match after it. -/
def matchSome (flags : List Flag) : List (List Piece) → Next → Next
  | [], _, _ => none
  | b :: bs, next, p =>
    match matchAll flags b next p with
    | some q => some q
    | none => matchSome flags bs next p

end

/-- Whether an expression matches at a place or at one further on. -/
def Expression.matchesFrom (e : Expression) (before : List Char) : List Char → Bool
  | [] => (matchAll e.flags e.body some { before, after := [] }).isSome
  | c :: cs =>
    (matchAll e.flags e.body some { before, after := c :: cs }).isSome
      || e.matchesFrom (c :: before) cs

/-- Whether an expression matches somewhere in a text. -/
def Expression.occursIn (e : Expression) (text : List Char) : Bool := e.matchesFrom [] text

end ApiDoc.Pattern
