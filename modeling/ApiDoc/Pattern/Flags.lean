import ApiDoc.Pattern.Scan
import ApiDoc.Text.Property.Letter

/-!
# Flags inside a pattern

A group can begin with letters that turn flags on, and after a hyphen with letters that turn flags
off. Without a body such a group turns flags on for the whole pattern.
-/

namespace ApiDoc.Pattern

/-- Whether a symbol is a letter of some script. -/
def isLetter : Symbol → Bool
  | .plain c => Text.isLetter c
  | .escaped _ => false

namespace Reader

/-- The flag of a symbol, or a fault: an unknown letter, or another character where `what` is
missing. -/
def flagOf (s : Symbol) (what : String) : Reader Flag := do
  let flag? := match s with
    | .plain c => Flag.ofChar? c
    | .escaped _ => none
  match flag? with
  | some f => return f
  | none => fail (if isLetter s then .unknownFlag else .missing what) s.text.length

/-- The flags to turn on, up to the character that ends them. -/
def flagsOn (on : List Flag) (s : Symbol) : Nat → Reader (List Flag × Symbol)
  | 0 => fail (.missing "-, : or )")
  | fuel + 1 => do
    let flag ← flagOf s "-, : or )"
    if flag = .locale then fail .localeFlag
    let on := on ++ [flag]
    if flag.isType && on.any fun f => f.isType && f != flag then fail .incompatibleFlags
    match ← take? with
    | none => fail (.missing "-, : or )")
    | some next =>
      if next ∈ [.plain ')', .plain '-', .plain ':'] then return (on, next)
      else
        let _ ← flagOf next "-, : or )"
        flagsOn on next fuel

/-- The flags to turn off, up to the colon. -/
def flagsOff (off : List Flag) (s : Symbol) (what : String) : Nat → Reader (List Flag)
  | 0 => fail (.missing ":")
  | fuel + 1 => do
    let flag ← flagOf s what
    if flag.isType then fail .typeFlagOff
    let off := off ++ [flag]
    match ← take? with
    | none => fail (.missing ":")
    | some next => if next = .plain ':' then return off else flagsOff off next ":" fuel

/-- The flags of a group whose first letter or hyphen has been taken; none when they hold for the
whole pattern, for which they are then turned on. -/
def flagChange? (first : Symbol) : Reader (Option FlagChange) := do
  let fuel := (← get).rest.length + 1
  let (on, last) ←
    if first = .plain '-' then pure ([], first) else flagsOn [] first fuel
  if last = .plain ')' then
    modify fun s => { s with flags := s.flags ++ on }
    return none
  if on.contains .template then fail .globalFlagOn 1
  let off ←
    if last = .plain '-' then
      match ← take? with
      | none => fail (.missing "flag")
      | some s => flagsOff [] s "flag" fuel
    else pure []
  if off.contains .template then fail .globalFlagOff 1
  if on.any off.contains then fail .flagOnAndOff 1
  return some ⟨on, off⟩

end Reader

end ApiDoc.Pattern
