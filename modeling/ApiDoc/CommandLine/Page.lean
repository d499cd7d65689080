import ApiDoc.CommandLine.Arguments
import ApiDoc.Text.Quoted

/-!
# Help pages and complaints

A help page shows how a command is called, what it does, its options and its commands. A complaint
about the words of a command line shows how the command is called; only complaints about the value
of an option stand alone.
-/

namespace ApiDoc.CommandLine

/-- What a help page says of a command. -/
structure Page where
  /-- The words that name the command. -/
  command : String
  /-- What follows the options in a call. -/
  operands : String
  purpose : String
  options : List Flag
  /-- The commands of the command, with what they do. -/
  commands : List (String × String) := []

namespace Page

/-- How the command is called. -/
def usage (p : Page) : String := s!"Usage: {p.command} [OPTIONS] {p.operands}"

/-- The names of an option and what its value is. -/
def heading (f : Flag) : String :=
  ", ".intercalate (f.shortText?.toList ++ [f.longText])
    ++ (match f.argument with
      | some kind => " " ++ kind
      | none => "")

/-- What an option is for, and whether it has to be set. -/
def explanation (f : Flag) : String := f.purpose ++ if f.required then "  [required]" else ""

/-- Lines of two columns. -/
def columns (rows : List (String × String)) : List String :=
  let width := ((rows.map fun (a, _) => a.length).max?).getD 0
  rows.map fun (a, b) =>
    "  " ++ a ++ .ofList (List.replicate (width + 2 - a.length) ' ') ++ b

/-- The lines of a help page. -/
def lines (p : Page) : List String :=
  [p.usage, "", "  " ++ p.purpose, "", "Options:"]
    ++ columns (p.options.map fun f => (heading f, explanation f))
    ++ (if p.commands.isEmpty then [] else ["", "Commands:"] ++ columns p.commands)

def text (p : Page) : String := .join (p.lines.map (· ++ "\n"))

end Page

namespace UsageError

/-- A question that leads to similar names. -/
def suggestion (similar : List String) : String :=
  match similar.map Text.quoted with
  | [] => ""
  | [name] => s!" Did you mean {name}?"
  | names => " (Possible options: " ++ ", ".intercalate names ++ ")"

/-- The sentence of a complaint. -/
def message : UsageError → String
  | unknownOption name similar => s!"No such option {Text.quoted name}." ++ suggestion similar
  | needsValue name => s!"Option {Text.quoted name} requires an argument."
  | takesNoValue name => s!"Option {Text.quoted name} does not take a value."
  | unknownCommand name similar => s!"No such command {Text.quoted name}." ++ suggestion similar
  | missingCommand => "Missing command."
  | missingArgument name => s!"Missing argument '{name}'."
  | missingOption names =>
    "Missing option " ++ " / ".intercalate (names.map fun n => s!"'{n}'") ++ "."
  | missingPath argument path =>
    s!"Invalid value for '{argument}': Path {Text.quoted path} does not exist."
  | extraArguments words =>
    (if words.length = 1 then "Got unexpected extra argument ("
      else "Got unexpected extra arguments (") ++ " ".intercalate words ++ ")"

/-- Whether a complaint stands alone. -/
def standsAlone : UsageError → Bool
  | needsValue _ | takesNoValue _ => true
  | _ => false

/-- A complaint about the call of a command. -/
def text (p : Page) (e : UsageError) : String :=
  (if e.standsAlone then ""
    else p.usage ++ s!"\nTry '{p.command} --help' for help.\n\n")
    ++ "Error: " ++ e.message ++ "\n"

end UsageError

end ApiDoc.CommandLine
