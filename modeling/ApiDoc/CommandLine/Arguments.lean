import ApiDoc.Text.Similarity

/-!
# Arguments

The words of a command line are settings of options or positional arguments.

**Options.** An option has a long name, `--output`, and maybe a short one, `-o`. A long option has
its value behind an equals sign or in the next word. Short options can share one word, and the value
of the last one may be the rest of the word. A word that an option takes as its value can look like
anything.

**Positional arguments.** A word that is no option is positional, and so is a single hyphen. After
`--` all words are positional. A command with commands of its own ends its options at the first
positional argument; what follows belongs to the command that this one names.
-/

namespace ApiDoc.CommandLine

/-- An option of a command. -/
structure Flag where
  /-- The name behind two hyphens. -/
  long : String
  /-- The letter behind one hyphen. -/
  short : Option Char := none
  /-- What the value of the option is, when it takes one. -/
  argument : Option String := none
  required : Bool := false
  /-- What the option is for. -/
  purpose : String
  deriving DecidableEq, Repr

namespace Flag

/-- The long name as it is written. -/
def longText (f : Flag) : String := "--" ++ f.long

/-- The short name as it is written. -/
def shortText? (f : Flag) : Option String := f.short.map fun c => .ofList ['-', c]

end Flag

/-- What is wrong with the words of a command line. -/
inductive UsageError where
  | unknownOption (name : String) (similar : List String)
  | needsValue (name : String)
  | takesNoValue (name : String)
  | unknownCommand (name : String) (similar : List String)
  | missingCommand
  | missingArgument (name : String)
  | missingOption (names : List String)
  | missingPath (argument path : String)
  | extraArguments (words : List String)
  deriving DecidableEq, Repr

/-- One setting of an option. -/
structure Setting where
  option : Flag
  value : String := ""
  deriving DecidableEq, Repr

/-- The words of a command line, read. -/
structure Arguments where
  /-- The settings, in order. -/
  settings : List Setting := []
  positional : List String := []
  deriving DecidableEq, Repr

namespace Arguments

/-- The value of an option: its last setting counts. -/
def value? (a : Arguments) (f : Flag) : Option String :=
  (a.settings.reverse.find? (·.option == f)).map (·.value)

/-- Whether an option is set. -/
def has (a : Arguments) (f : Flag) : Bool := (a.value? f).isSome

/-- What a word with options gives: complete settings, and maybe one that still needs a value,
with the name that it was given by. -/
abbrev Word := List Setting × Option (String × Flag)

/-- The part before the first equals sign, and what is behind it. -/
def splitEquals (cs : List Char) : List Char × Option (List Char) :=
  match cs.dropWhile (· ≠ '=') with
  | [] => (cs, none)
  | _ :: rest => (cs.takeWhile (· ≠ '='), some rest)

/-- The long names that are similar to a name, in alphabetical order. -/
def similarNames (options : List Flag) (name : String) : List String :=
  ((options.map Flag.longText).filter fun known => Text.areSimilar known name).mergeSort
    fun a b => a ≤ b

/-- A word with one long option. -/
def longOption (options : List Flag) (word : List Char) : Except UsageError Word :=
  let (name, value) := splitEquals word
  let name := String.ofList name
  match options.find? (·.longText = name) with
  | none => .error (.unknownOption name (similarNames options name))
  | some f =>
    match f.argument, value with
    | none, none => .ok ([{ option := f }], none)
    | none, some _ => .error (.takesNoValue name)
    | some _, none => .ok ([], some (name, f))
    | some _, some v => .ok ([{ option := f, value := .ofList v }], none)

/-- A word with short options. -/
def shortOptions (options : List Flag) : List Char → Except UsageError Word
  | [] => .ok ([], none)
  | c :: cs =>
    let name := String.ofList ['-', c]
    match options.find? (·.short = some c) with
    | none => .error (.unknownOption name [])
    | some f =>
      if f.argument.isNone then do
        let (settings, open_) ← shortOptions options cs
        return ({ option := f } :: settings, open_)
      else if cs.isEmpty then .ok ([], some (name, f))
      else .ok ([{ option := f, value := .ofList cs }], none)

/-- A word with options, or nothing for any other word. -/
def options? (options : List Flag) (word : List Char) : Option (Except UsageError Word) :=
  match word with
  | '-' :: '-' :: _ => some (longOption options word)
  | '-' :: c :: cs => some (shortOptions options (c :: cs))
  | _ => none

/-- Puts settings in front. -/
def withSettings (settings : List Setting) (a : Arguments) : Arguments :=
  { a with settings := settings ++ a.settings }

/-- Reads words. `mixed` says that options may follow positional arguments; `open_` is the option
that takes the next word as its value. -/
def readFrom (options : List Flag) (mixed : Bool) (open_ : Option (String × Flag)) :
    List String → Except UsageError Arguments
  | [] =>
    match open_ with
    | some (name, _) => .error (.needsValue name)
    | none => .ok {}
  | word :: words =>
    match open_ with
    | some (_, f) =>
      withSettings [{ option := f, value := word }] <$> readFrom options mixed none words
    | none =>
      -- Behind two hyphens nothing is an option.
      if word = "--" then .ok { positional := words }
      else
        match options? options word.toList with
        | some (.error e) => .error e
        | some (.ok (settings, open_)) =>
          withSettings settings <$> readFrom options mixed open_ words
        | none =>
          -- Without mixing, the first positional argument ends the options.
          if mixed then do
            let a ← readFrom options mixed none words
            return { a with positional := word :: a.positional }
          else .ok { positional := word :: words }

/-- Reads the words of a command line. -/
def read (options : List Flag) (mixed : Bool) (words : List String) :
    Except UsageError Arguments :=
  readFrom options mixed none words

end Arguments

end ApiDoc.CommandLine
