import ApiDoc.Json.Writer
import ApiDoc.OpenApi.Finding
import ApiDoc.RouteFile

/-!
# Runs

A run prints and changes files as it goes. It ends with a result or halts before its time; what was
printed and changed until then stays so. Printing always succeeds, and so does writing to a file
once it has been opened: a closed output and a full disk are not modelled.
-/

namespace ApiDoc.CommandLine

/-- Something that ends a run and that no caller is promised to be told about. -/
inductive Escape where
  | failure (f : Failure)
  | unwritable (e : Json.WriteError)
  /-- The output has codes that are no characters. -/
  | unencodable (e : Text.EncodingError)
  | unchecked (o : OpenApi.Obstacle)

/-- The message of what ended a run. -/
def Escape.message : Escape → String
  | failure f => f.message
  | unwritable e => e.message
  | unencodable e => e.message
  | unchecked o => o.message

/-- How a run ends before its time. -/
inductive Halt where
  /-- The words of the command line are wrong. -/
  | misused
  /-- The run fails, and has said why. -/
  | failed
  /-- Something escapes. -/
  | escaped (e : Escape)

namespace Halt

/-- The exit code of a run that ends before its time. -/
def exitCode : Halt → Nat
  | misused => 2
  | failed | escaped .. => 1

/-- What escapes. -/
def escape? : Halt → Option Escape
  | escaped e => some e
  | _ => none

theorem exitCode_pos (h : Halt) : 0 < h.exitCode := by
  cases h <;> simp [exitCode]

end Halt

/-- How far a run has come. -/
structure Progress where
  /-- What it has printed. -/
  output : String := ""
  /-- The files and directories as they are now. -/
  disk : Disk

abbrev Console := ExceptT Halt (StateM Progress)

namespace Console

def say (text : String) : Console Unit := modify fun p => { p with output := p.output ++ text }

def sayLine (line : String) : Console Unit := say (line ++ "\n")

/-- Ends a run by a failure. A documented failure is told, any other escapes. What is wrong with a
text that is no YAML is not told, and the line stays open. -/
def fail {α : Type} (f : Failure) : Console α := do
  if f.isDocumented then
    say ("Error: " ++ f.message)
    match f with
    | .unparsed _ => pure ()
    | _ => say "\n"
    throw .failed
  else throw (.escaped (.failure f))

/-- Prints notices. Only a verbose run prints those that are no warnings. -/
def log (verbose : Bool) (notices : List Notice) : Console Unit :=
  notices.forM fun n => do
    if verbose || n.isWarning then sayLine n.line

/-- Changes the disk. A change can fail after it has been made in part. -/
def change (f : Disk → Except FileError Unit × Disk) : Console Unit := do
  let (result, disk) := f (← get).disk
  modify fun p => { p with disk }
  match result with
  | .ok () => pure ()
  | .error e => throw (.escaped (.failure (.file e)))

def write (path : FilePath) (bytes : List UInt8) : Console Unit :=
  change fun d =>
    match d.write path bytes with
    | .ok written => (.ok (), written)
    | .error e => (.error e, d)

end Console

end ApiDoc.CommandLine
