import ApiDoc.Pattern.Escape
import ApiDoc.Pattern.Flags
import ApiDoc.Text.Integer
import ApiDoc.Text.Property.Identifier

/-!
# Reading expressions

An expression is a list of branches, each a sequence of pieces. `Pattern.check` reads a whole
pattern and then looks at the expression for what only the whole shows: look-behinds without a
fixed width.

Each call of the recursive functions takes a token or passes from branches to a sequence, so fuel
of three times the number of tokens is never used up.
-/

namespace ApiDoc.Pattern

namespace Reader

/-- A name of a group, which has to be an identifier. -/
def groupName (terminator : Char) : Reader (List Char) := do
  let name ← takeName terminator "group name"
  if !Text.isIdentifier name then fail (.badGroupName (.ofList name)) (name.length + 1)
  return name

/-- The number of the group that has a name. -/
def numberOfName (name : List Char) : Reader Nat := do
  match (← get).names.lookup (.ofList name) with
  | some n => return n
  | none => fail (.unknownGroupName (.ofList name)) (name.length + 1)

/-- A reference to a group by its name. -/
def namedReference : Reader Piece := do
  let name ← groupName ')'
  let number ← numberOfName name
  match ← groupWidth? number with
  | none => fail .openReference (name.length + 1)
  | some w =>
    checkBehind number
    return .reference number w

/-- The number of the group that a condition asks for. -/
def conditionNumber : Reader Nat := do
  let name ← takeName ')' "group name"
  let number ←
    if Text.isIdentifier name then numberOfName name
    else
      match Text.integer? name with
      | some (.ofNat n) =>
        if n = 0 then fail .badGroupNumber (name.length + 1)
        if 0x3fffffff ≤ n then fail (.invalidReference n) (name.length + 1)
        -- Whether there is such a group shows only at the end of the pattern.
        let place := (← tell) - name.length - 1
        modify fun s =>
          if (s.conditions.lookup n).isSome then s
          else { s with conditions := s.conditions ++ [(n, place)] }
        pure n
      | _ => fail (.badGroupName (.ofList name)) (name.length + 1)
  checkBehind number
  return number

/-- Passes over a comment that began at `start`. -/
def skipComment (start : Nat) : Nat → Reader Unit
  | 0 => throw (.at .unterminatedComment start)
  | fuel + 1 => do
    match ← next? with
    | none => throw (.at .unterminatedComment start)
    | some _ => if (← take?) = some (.plain ')') then return () else skipComment start fuel

/-- Passes over the rest of a line. -/
def skipLine : Nat → Reader Unit
  | 0 => pure ()
  | fuel + 1 => do
    match ← take? with
    | none => return ()
    | some s => if s = .plain '\n' then return () else skipLine fuel

/-- The closing parenthesis of the group that began at `start`. -/
def closeParenthesis (start : Nat) : Reader Unit := do
  if !(← accept ')') then throw (.at .unterminatedGroup start)

/-- The numbers of a repetition in braces: the least, and the greatest if there is one. None when
the braces are no repetition; then nothing has been taken. -/
def braces? : Reader (Option (Nat × Option Nat)) := do
  let before ← get
  let low ← takeAll Char.isDigit
  let high ← if ← accept ',' then takeAll Char.isDigit else pure low
  if !(← accept '\x7d') then
    set before
    return none
  let here := before.rest.head?.elim before.size (·.position)
  let least := valueOf 10 low
  if maxRepeat ≤ least then throw (.refused .repetition)
  if high = [] then return some (least, none)
  let most := valueOf 10 high
  if maxRepeat ≤ most then throw (.refused .repetition)
  if most < least then throw (.at .rangeReversed here)
  return some (least, some most)

/-- Repeats the last of the pieces read so far, which come last one first. `start` is the place of
the repetition. -/
def repeatLast (start low : Nat) (high : Option Nat) (pieces : List Piece) :
    Reader (List Piece) := do
  match pieces with
  | [] => throw (.at .nothingToRepeat start)
  | .anchor _ :: _ => throw (.at .nothingToRepeat start)
  | .repeated .. :: _ => throw (.at .multipleRepeat start)
  | p :: ps =>
    if ← accept '?' then return .repeated .lazy low high [p] :: ps
    if ← accept '+' then return .repeated .possessive low high [p] :: ps
    return .repeated .greedy low high [p] :: ps

/-- The piece that an escape outside of character sets is. -/
def escapePiece (c : Char) : Reader Piece := do
  match ← escape c with
  | .code n => return .char n
  | .ofClass k negated => return .set false [.ofClass k negated]
  | .anchor a => return .anchor a
  | .reference number w => return .reference number w

/-- Reads a symbol that is no group: the pieces so far, the last one first, with its effect. -/
def simplePiece (start : Nat) (s : Symbol) (pieces : List Piece) : Reader (List Piece) := do
  match s with
  | .escaped c => return (← escapePiece c) :: pieces
  | .plain '[' => return (← characterSet) :: pieces
  | .plain '?' => repeatLast start 0 (some 1) pieces
  | .plain '*' => repeatLast start 0 none pieces
  | .plain '+' => repeatLast start 1 none pieces
  | .plain '\x7b' =>
    let brace := Piece.char '\x7b'.toNat
    if (← next?) = some (.plain '\x7d') then return brace :: pieces
    -- A brace that opens no bounds stands for itself.
    match ← braces? with
    | some (low, high) => repeatLast start low high pieces
    | none => return brace :: pieces
  | .plain '^' => return .anchor .lineStart :: pieces
  | .plain '$' => return .anchor .lineEnd :: pieces
  | .plain '.' => return .any :: pieces
  | .plain c => return .char c.toNat :: pieces

/-- How a group begins. -/
inductive Opening where
  | capturing (name : Option (List Char))
  /-- A group that captures nothing, with the flags it turns on and off. -/
  | plain (change : FlagChange)
  | atomic
  | look (behind negated : Bool)
  | condition
  /-- Flags for the whole pattern; there is no body. -/
  | globalFlags
  /-- A comment, or a reference by name; there is no body. -/
  | done (piece : Option Piece)

/-- Reads how a group begins whose parenthesis, at `start`, has been taken. -/
def opening (start : Nat) : Reader Opening := do
  if !(← accept '?') then return .capturing none
  let some s ← take? | fail .endOfPattern
  match s with
  | .plain 'P' =>
    if ← accept '<' then return .capturing (some (← groupName '>'))
    else if ← accept '=' then return .done (some (← namedReference))
    else
      let some t ← take? | fail .endOfPattern
      fail (.unknownExtension (.ofList ('P' :: t.text))) (t.text.length + 2)
  | .plain ':' => return .plain {}
  | .plain '>' => return .atomic
  | .plain '#' =>
    let st ← get
    skipComment start (st.rest.length + 1)
    return .done none
  | .plain '=' => return .look false false
  | .plain '!' => return .look false true
  | .plain '<' =>
    let some t ← take? | fail .endOfPattern
    if t = .plain '=' then return .look true false
    else if t = .plain '!' then return .look true true
    else fail (.unknownExtension (.ofList ('<' :: t.text))) (t.text.length + 2)
  | .plain '(' => return .condition
  | s =>
    let isFlag := match s with
      | .plain c => c = '-' || (Flag.ofChar? c).isSome
      | .escaped _ => false
    if isFlag then
      match ← flagChange? s with
      | some change => return .plain change
      | none => return .globalFlags
    else fail (.unknownExtension (.ofList s.text)) (s.text.length + 1)

mutual

/-- Reads branches. `top` says that they are the whole pattern. -/
def branches (fuel : Nat) (verbose top : Bool) (before : List (List Piece)) :
    Reader (List Piece) := do
  match fuel with
  | 0 => return []
  | fuel + 1 =>
    let body ← sequence fuel verbose (top && before.isEmpty) []
    let bodies := body.reverse :: before
    if ← accept '|' then
      let st ← get
      let verbose := if top then st.flags.contains .verbose else verbose
      branches fuel verbose top bodies
    else
      match bodies with
      | [body] => return body
      | _ => return [.branches bodies.reverse]

/-- Reads a sequence of pieces, the last one first. `first` says that nothing but flags and
comments stands before it in the pattern. -/
def sequence (fuel : Nat) (verbose first : Bool) (pieces : List Piece) : Reader (List Piece) := do
  match fuel with
  | 0 => return pieces
  | fuel + 1 =>
    let start ← tell
    match ← next? with
    | none => return pieces
    | some s =>
      if s = .plain '|' ∨ s = .plain ')' then return pieces
      let _ ← take?
      if verbose && s ∈ [' ', '\t', '\n', '\r', '\x0b', '\x0c'].map Symbol.plain then
        sequence fuel verbose first pieces
      else if verbose && s = .plain '#' then
        let st ← get
        skipLine (st.rest.length + 1)
        sequence fuel verbose first pieces
      else if s = .plain '(' then
        let (pieces, verbose) ← group fuel start verbose first pieces
        sequence fuel verbose first pieces
      else
        let pieces ← simplePiece start s pieces
        sequence fuel verbose first pieces

/-- Reads a group whose parenthesis has been taken. The result has the pieces with the group and
whether blanks count from here on. -/
def group (fuel start : Nat) (verbose first : Bool) (pieces : List Piece) :
    Reader (List Piece × Bool) := do
  match fuel with
  | 0 => return (pieces, verbose)
  | fuel + 1 =>
    match ← opening start with
    | .done none => return (pieces, verbose)
    | .done (some p) => return (p :: pieces, verbose)
    | .globalFlags =>
      if !first || !pieces.isEmpty then throw (.at .misplacedFlags start)
      return (pieces, (← get).flags.contains .verbose)
    | .capturing name =>
      let number ← openGroup name
      let body ← branches fuel verbose false []
      closeParenthesis start
      closeGroup number body
      return (.group number {} body :: pieces, verbose)
    | .plain change =>
      -- Whether blanks count changes only inside of the group.
      let inner := (verbose || change.on.contains .verbose) && !change.off.contains .verbose
      let body ← branches fuel inner false []
      closeParenthesis start
      return (.group none change body :: pieces, verbose)
    | .atomic =>
      let body ← branches fuel verbose false []
      closeParenthesis start
      return (.atomic body :: pieces, verbose)
    | .look behind negated =>
      let outer := (← get).behindFrom
      let count ← groupCount
      if behind && outer.isNone then modify fun s => { s with behindFrom := some count }
      let body ← branches fuel verbose false []
      if behind && outer.isNone then modify fun s => { s with behindFrom := none }
      closeParenthesis start
      return (.look behind negated body :: pieces, verbose)
    | .condition =>
      let number ← conditionNumber
      let yes ← sequence fuel verbose false []
      let mut no := []
      if ← accept '|' then
        no ← sequence fuel verbose false []
        if (← next?) = some (.plain '|') then fail .tooManyBranches
      closeParenthesis start
      return (.conditional number yes.reverse no.reverse :: pieces, verbose)

end

def whole : Reader (List Piece) := do
  refuseDangling
  let s ← get
  let pieces ← branches (3 * s.rest.length + 3) false true []
  let s ← get
  if s.flags.contains .ascii && s.flags.contains .unicode then throw (.refused .flagsClash)
  if (← next?).isSome then fail .unbalancedParenthesis
  match s.conditions.find? fun (n, _) => s.groups.length < n with
  | some (n, place) => throw (.at (.invalidReference n) place)
  | none => return pieces

end Reader

/-! ## The expression as a whole -/

def RepeatMode.name : RepeatMode → String
  | greedy => "MAX_REPEAT"
  | lazy => "MIN_REPEAT"
  | possessive => "POSSESSIVE_REPEAT"

mutual

/-- The first fault of a piece that reading does not show. `template` forbids repeats. -/
def Piece.fault? (template : Bool) : Piece → Option Cause
  | .char _ | .any | .set .. | .anchor _ | .reference .. => none
  | .group _ _ body | .atomic body => faultOf? template body
  | .look behind _ body =>
    let w := widthOf body
    if behind && w.low ≠ w.high then some .widthNotFixed else faultOf? template body
  | .repeated mode _ _ body =>
    if template then some (.templateRepeat mode.name) else faultOf? template body
  | .branches bodies => faultOfBranches? template bodies
  | .conditional _ yes no => (faultOf? template yes).or (faultOf? template no)

/-- The first fault of an expression. -/
def faultOf? (template : Bool) : List Piece → Option Cause
  | [] => none
  | p :: ps => (p.fault? template).or (faultOf? template ps)

/-- The first fault of several expressions. -/
def faultOfBranches? (template : Bool) : List (List Piece) → Option Cause
  | [] => none
  | b :: bs => (faultOf? template b).or (faultOfBranches? template bs)

end

/-- The width from which on a look-behind is refused. -/
def maxBehind : Nat := 0x80000000

mutual

/-- Whether a piece looks too far behind. -/
def Piece.looksTooFar : Piece → Bool
  | .char _ | .any | .set .. | .anchor _ | .reference .. => false
  | .group _ _ body | .atomic body | .repeated _ _ _ body => looksTooFar body
  | .look behind _ body => behind && maxBehind ≤ (widthOf body).low || looksTooFar body
  | .branches bodies => branchLooksTooFar bodies
  | .conditional _ yes no => looksTooFar yes || looksTooFar no

/-- Whether an expression looks too far behind. -/
def looksTooFar : List Piece → Bool
  | [] => false
  | p :: ps => p.looksTooFar || looksTooFar ps

/-- Whether one of several expressions looks too far behind. -/
def branchLooksTooFar : List (List Piece) → Bool
  | [] => false
  | b :: bs => looksTooFar b || branchLooksTooFar bs

end

/-- The regular expression that a text is, or its fault. -/
def read (pattern : List Char) : Except Error Expression := do
  let (body, s) ← Reader.whole.run { rest := tokens 0 pattern, size := pattern.length }
  match faultOf? (s.flags.contains .template) body with
  | some cause => throw (.whole cause)
  | none =>
    if looksTooFar body then throw (.refused .width)
    return { body, flags := s.flags }

/-- Whether a text is a regular expression; the fault if it is none. -/
def check (pattern : List Char) : Except Error Unit := do
  let _ ← read pattern

end ApiDoc.Pattern
