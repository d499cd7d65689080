import ApiDoc.Text.Quoted

/-!
# What can be wrong with a pattern

A pattern that is no regular expression has a first fault, with the position in the text at which
reading stopped. A fault that only the whole expression shows, such as a look-behind without a
fixed width, has no position. What is beyond the limits of matching, and flags that exclude each
other, are errors of other kinds.
-/

namespace ApiDoc.Pattern

/-- Why a text is no pattern. -/
inductive Cause where
  | danglingEscape
  | badEscape (escape : String)
  | incompleteEscape (escape : String)
  | octalRange (escape : String)
  | missing (what : String)
  | unterminatedName (terminator : Char)
  | undefinedCharacter (name : String)
  | badGroupName (name : String)
  | unknownGroupName (name : String)
  | groupRedefined (name : String) (number earlier : Nat)
  | badGroupNumber
  | invalidReference (number : Nat)
  | openReference
  | lookBehindReference
  | unterminatedSet
  | badRange (first last : String)
  | rangeReversed
  | nothingToRepeat
  | multipleRepeat
  | endOfPattern
  | unknownExtension (text : String)
  | unterminatedComment
  | unterminatedGroup
  | unbalancedParenthesis
  | tooManyBranches
  | misplacedFlags
  | unknownFlag
  | localeFlag
  | incompatibleFlags
  | globalFlagOn
  | globalFlagOff
  | typeFlagOff
  | flagOnAndOff
  | widthNotFixed
  | templateRepeat (mode : String)
  deriving DecidableEq, Repr

/-- The sentence for a cause. -/
def Cause.message : Cause → String
  | danglingEscape => "bad escape (end of pattern)"
  | badEscape e => "bad escape " ++ e
  | incompleteEscape e => "incomplete escape " ++ e
  | octalRange e => "octal escape value " ++ e ++ " outside of range 0-0o377"
  | missing what => "missing " ++ what
  | unterminatedName t => s!"missing {t}, unterminated name"
  | undefinedCharacter n => "undefined character name " ++ Text.quoted n
  | badGroupName n => "bad character in group name " ++ Text.quoted n
  | unknownGroupName n => "unknown group name " ++ Text.quoted n
  | groupRedefined n number earlier =>
    "redefinition of group name " ++ Text.quoted n ++ s!" as group {number}; was group {earlier}"
  | badGroupNumber => "bad group number"
  | invalidReference n => s!"invalid group reference {n}"
  | openReference => "cannot refer to an open group"
  | lookBehindReference => "cannot refer to group defined in the same lookbehind subpattern"
  | unterminatedSet => "unterminated character set"
  | badRange first last => s!"bad character range {first}-{last}"
  | rangeReversed => "min repeat greater than max repeat"
  | nothingToRepeat => "nothing to repeat"
  | multipleRepeat => "multiple repeat"
  | endOfPattern => "unexpected end of pattern"
  | unknownExtension t => "unknown extension ?" ++ t
  | unterminatedComment => "missing ), unterminated comment"
  | unterminatedGroup => "missing ), unterminated subpattern"
  | unbalancedParenthesis => "unbalanced parenthesis"
  | tooManyBranches => "conditional backref with more than two branches"
  | misplacedFlags => "global flags not at the start of the expression"
  | unknownFlag => "unknown flag"
  | localeFlag => "bad inline flags: cannot use 'L' flag with a str pattern"
  | incompatibleFlags => "bad inline flags: flags 'a', 'u' and 'L' are incompatible"
  | globalFlagOn => "bad inline flags: cannot turn on global flag"
  | globalFlagOff => "bad inline flags: cannot turn off global flag"
  | typeFlagOff => "bad inline flags: cannot turn off flags 'a', 'u' and 'L'"
  | flagOnAndOff => "bad inline flags: flag turned on and off"
  | widthNotFixed => "look-behind requires fixed-width pattern"
  | templateRepeat mode => "internal: unsupported template operator " ++ mode

/-- Why an expression is refused although nothing in its text is at fault. -/
inductive Refusal where
  /-- The flags for the whole pattern ask for two classes of letters. -/
  | flagsClash
  /-- A repetition number is too large. -/
  | repetition
  /-- The code point of a character is too large. -/
  | character
  /-- A look-behind is too wide. -/
  | width
  deriving DecidableEq, Repr

/-- The sentence for a refusal. -/
def Refusal.message : Refusal → String
  | flagsClash => "ASCII and UNICODE flags are incompatible"
  | repetition => "the repetition number is too large"
  | character => "Python int too large to convert to C int"
  | width => "invalid SRE code"

/-- A fault of a pattern. -/
inductive Error where
  /-- The text is no pattern, for a cause found at a position. -/
  | at (cause : Cause) (position : Nat)
  /-- The expression as a whole is at fault. -/
  | whole (cause : Cause)
  | refused (why : Refusal)
  deriving DecidableEq, Repr

/-- The line and the column of a position, both counted from one. -/
def lineAndColumn (pattern : List Char) (position : Nat) : Nat × Nat :=
  let before := pattern.take position
  (before.count '\n' + 1, (before.reverse.takeWhile (· ≠ '\n')).length + 1)

/-- The text of a fault; in a pattern of several lines the position has a line and a column. -/
def Error.message (pattern : List Char) : Error → String
  | .at cause position =>
    let place :=
      if pattern.contains '\n' then
        let (line, column) := lineAndColumn pattern position
        s!" (line {line}, column {column})"
      else ""
    cause.message ++ s!" at position {position}" ++ place
  | .whole cause => cause.message
  | .refused why => why.message

end ApiDoc.Pattern
