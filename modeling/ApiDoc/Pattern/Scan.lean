import ApiDoc.Pattern.Token
import ApiDoc.Pattern.Tree

/-!
# Reading a pattern: the state and the elementary steps

The state holds the tokens that are left, the flags that hold for the whole pattern, and what is
known of the groups: their widths once they are closed, and their names.
-/

namespace ApiDoc.Pattern

/-- The state of reading. -/
structure Scan where
  rest : List Token
  /-- The length of the pattern. -/
  size : Nat
  flags : List Flag := []
  /-- The width of each group, from group 1 on; none while the group is open. -/
  groups : List (Option Width) := []
  names : List (String × Nat) := []
  /-- Inside a look-behind: the number of the first group that belongs to it. -/
  behindFrom : Option Nat := none
  /-- The group numbers that conditions ask for, each with the place of its first use. -/
  conditions : List (Nat × Nat) := []

abbrev Reader := StateT Scan (Except Error)

namespace Reader

/-- The position of the next token. -/
def tell : Reader Nat := do
  let s ← get
  return match s.rest with
    | t :: _ => t.position
    | [] => s.size

/-- Stops with a cause, `back` characters before the next token. -/
def fail {α : Type} (cause : Cause) (back : Nat := 0) : Reader α := do
  throw (.at cause ((← tell) - back))

/-- Refuses a backslash at the end when it is next. -/
def refuseDangling : Reader Unit := do
  match (← get).rest with
  | ⟨none, p⟩ :: _ => throw (.at .danglingEscape p)
  | _ => pure ()

def next? : Reader (Option Symbol) := do
  return (← get).rest.head?.bind (·.symbol)

def take? : Reader (Option Symbol) := do
  let s ← next?
  modify fun st => { st with rest := st.rest.tail }
  refuseDangling
  return s

/-- Takes the next symbol if it is the given character. -/
def accept (c : Char) : Reader Bool := do
  if (← next?) = some (.plain c) then
    let _ ← take?
    return true
  else return false

/-- Takes at most `n` characters of a class. -/
def takeWhile (p : Char → Bool) : Nat → Reader (List Char)
  | 0 => pure []
  | n + 1 => do
    match ← next? with
    | some (.plain c) =>
      if p c then
        let _ ← take?
        return c :: (← takeWhile p n)
      else return []
    | _ => return []

/-- Takes all characters of a class. -/
def takeAll (p : Char → Bool) : Reader (List Char) := do
  let s ← get
  takeWhile p s.rest.length

/-- Takes the text before a terminator, and the terminator; `what` names the text. -/
def takeName (terminator : Char) (what : String) : Reader (List Char) := do
  let s ← get
  go [] (s.rest.length + 1)
where
  /-- Goes on after what has been taken. -/
  go (taken : List Char) : Nat → Reader (List Char)
    | 0 => fail (.missing what)
    | fuel + 1 => do
      match ← take? with
      | none =>
        if taken = [] then fail (.missing what)
        else fail (.unterminatedName terminator) taken.length
      | some s =>
        if s = .plain terminator then
          if taken = [] then fail (.missing what) 1 else return taken
        else go (taken ++ s.text) fuel

/-! ## Groups -/

/-- The number of groups so far, the whole pattern counted as group 0. -/
def groupCount : Reader Nat := do
  return (← get).groups.length + 1

/-- The width of a group that is closed. -/
def groupWidth? (number : Nat) : Reader (Option Width) := do
  let s ← get
  return if number = 0 then none else (s.groups[number - 1]?).join

/-- Opens a group and gives its number. -/
def openGroup (name : Option (List Char)) : Reader Nat := do
  let number ← groupCount
  match name with
  | some n =>
    let key := String.ofList n
    match (← get).names.lookup key with
    | some earlier => fail (.groupRedefined key number earlier) (n.length + 1)
    | none => modify fun s => { s with names := s.names ++ [(key, number)] }
  | none => pure ()
  modify fun s => { s with groups := s.groups ++ [none] }
  return number

def closeGroup (number : Nat) (body : List Piece) : Reader Unit :=
  modify fun s => { s with groups := s.groups.set (number - 1) (some (widthOf body)) }

/-- Inside a look-behind, refuses a reference to a group that is open or part of it. -/
def checkBehind (number : Nat) : Reader Unit := do
  match (← get).behindFrom with
  | none => pure ()
  | some first =>
    if (← groupWidth? number).isNone then fail .openReference
    if first ≤ number then fail .lookBehindReference

end Reader

end ApiDoc.Pattern
