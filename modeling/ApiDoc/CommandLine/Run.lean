import ApiDoc.CommandLine.Generate
import ApiDoc.CommandLine.Page

/-!
# The command line

`CommandLine.run` performs what the words of a command line ask for. There is one command,
`generate`. The words are read first; a run with wrong words does nothing but complain.

Main statement: `Outcome.exitCode_eq_zero_iff`, a run succeeds exactly when it comes to its end.
-/

namespace ApiDoc.CommandLine

/-! ## Commands and their options -/

/-- The option that shows a help page. -/
def helpFlag : Flag := { long := "help", purpose := "Show this message and exit." }

/-- The option that reports everything. -/
def verboseFlag : Flag :=
  { long := "verbose", short := some 'v', purpose := "Enable debug logging." }

/-- The option that names the output file. -/
def outputFlag : Flag :=
  { long := "output", short := some 'o', argument := some "PATH", required := true
    purpose := "Output file (.json or .yaml)." }

/-- The option for the path that all routes are below. -/
def mountFlag : Flag :=
  { long := "prefix", argument := some "TEXT", purpose := "Override every router's own prefix." }

/-- The option against default responses. -/
def bareFlag : Flag :=
  { long := "no-default-responses", purpose := "Do not add the default 200 response." }

/-- The option for checking the document. -/
def checkFlag : Flag :=
  { long := "check", purpose := "Validate the result against the OpenAPI 2.0 schema." }

/-- The name of the command that generates a document. -/
def generateName : String := "generate"

def generatePurpose : String := "Generate an OpenAPI document from a route file."

/-- The name of the argument for the route file. -/
def routesArgument : String := "ROUTES_PATH"

/-- The help page of the program. -/
def mainPage : Page :=
  { command := "main", operands := "COMMAND [ARGS]..."
    purpose := "router-docs: generate OpenAPI 2.0 documents from route tables."
    options := [verboseFlag, helpFlag], commands := [(generateName, generatePurpose)] }

/-- The help page of the command that generates a document. -/
def generatePage : Page :=
  { command := "main generate", operands := routesArgument, purpose := generatePurpose
    options := [outputFlag, mountFlag, bareFlag, checkFlag, helpFlag] }

/-! ## Reading the words -/

/-- What the words of a command line ask for. -/
inductive Call where
  | help (page : Page)
  | generate (r : Request)

/-- A complaint about the words, with the page of the command that they were meant for. -/
abbrev Complaint := Page × UsageError

/-- Reads the words after the command `generate`. The disk says whether the route file is there. -/
def readGenerate (disk : Disk) (verbose : Bool) (words : List String) :
    Except UsageError Call := do
  let a ← Arguments.read generatePage.options true words
  if a.has helpFlag then return .help generatePage
  match a.positional with
  | [] => throw (.missingArgument routesArgument)
  | routes :: extra =>
    unless disk.hasText routes do throw (.missingPath routesArgument routes)
    match a.value? outputFlag with
    | none => throw (.missingOption (outputFlag.shortText?.toList ++ [outputFlag.longText]))
    | some output =>
      unless extra.isEmpty do throw (.extraArguments extra)
      return .generate {
        routes := .ofText routes, output := .ofText output, mount := a.value? mountFlag
        defaults := !a.has bareFlag, check := a.has checkFlag, verbose }

/-- Reads words that begin with the name of a command. -/
def readCommand (disk : Disk) (verbose : Bool) (name : String) (words : List String) :
    Except Complaint Call :=
  if name = generateName then
    (readGenerate disk verbose words).mapError fun e => (generatePage, e)
  else
    let similar := [generateName].filter fun known => Text.areSimilar known name
    .error (mainPage, .unknownCommand name similar)

/-- Reads the words of a command line. A command whose name looks like an option is read as options
once more. -/
def readCall (disk : Disk) (words : List String) : Except Complaint Call := do
  let options (words : List String) : Except Complaint Arguments :=
    (Arguments.read mainPage.options false words).mapError fun e => (mainPage, e)
  let a ← options words
  if a.has helpFlag then return .help mainPage
  match a.positional with
  | [] => throw (mainPage, .missingCommand)
  | name :: rest =>
    unless name = generateName do
      let again ← options (name :: rest)
      if again.has helpFlag then return .help mainPage
    readCommand disk (a.has verboseFlag) name rest

/-! ## Running -/

/-- What a run leaves behind. -/
structure Outcome where
  exitCode : Nat
  output : String
  disk : Disk
  /-- What ended the run without being told. -/
  escape : Option Escape

/-- The outcome of a run on a disk. -/
def Outcome.ofConsole (disk : Disk) (run : Console Unit) : Outcome :=
  match run.run.run { disk } with
  | (.ok (), p) => { exitCode := 0, output := p.output, disk := p.disk, escape := none }
  | (.error h, p) =>
    { exitCode := h.exitCode, output := p.output, disk := p.disk, escape := h.escape? }

/-- A run succeeds exactly when it comes to its end. -/
theorem Outcome.exitCode_eq_zero_iff {disk : Disk} {r : Console Unit} :
    (Outcome.ofConsole disk r).exitCode = 0 ↔ (r.run.run { disk }).1 = .ok () := by
  rcases hr : r.run.run { disk } with ⟨result | result, output⟩
  · simpa [Outcome.ofConsole, hr] using Nat.ne_of_gt result.exitCode_pos
  · simp [Outcome.ofConsole, hr]

/-- Performs what words ask for. -/
def perform (check : Value → OpenApi.Verdict) (disk : Disk) (words : List String) : Console Unit :=
  match readCall disk words with
  | .error (page, e) => do
    Console.say (e.text page)
    throw .misused
  | .ok (.help page) => Console.say page.text
  | .ok (.generate r) => r.perform check

/-- Runs a command line. Without any words it shows the help page, as a complaint. -/
def run (disk : Disk) (words : List String) (check : Value → OpenApi.Verdict := OpenApi.check) :
    Outcome :=
  .ofConsole disk <|
    if words.isEmpty then do
      Console.say mainPage.text
      throw .misused
    else perform check disk words

/-- The paths that words can name: the route file and the output file, if the words can be read. -/
def pathsNamed (words : List String) : List FilePath :=
  match Arguments.read mainPage.options false words with
  | .ok { positional := _ :: rest, .. } =>
    match Arguments.read generatePage.options true rest with
    | .ok a => (a.positional.take 1 ++ (a.value? outputFlag).toList).map .ofText
    | .error _ => []
  | _ => []

end ApiDoc.CommandLine
