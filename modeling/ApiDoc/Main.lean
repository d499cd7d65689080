import ApiDoc.CommandLine.Run

/-!
# The program

The program looks at the files that its command line names, runs the command line on them, prints
what the run prints and writes the files that it leaves behind.
-/

namespace ApiDoc.Program

/-- What is at a path outside. -/
def look (path : String) : IO (Option Entry) := do
  match ← (IO.FS.readBinFile path).toBaseIO with
  | .ok bytes => return some (.file bytes.toList)
  | .error (.inappropriateType ..) => return some .directory
  | .error _ => return none

/-- Adds what is on the way to a path, as far as there is something. -/
def addWay (disk : Disk) (absolute : Bool) (way : List String) : List String → IO Disk
  | [] => return disk
  | name :: names => do
    let p : FilePath := ⟨absolute, way ++ [name]⟩
    match disk.placeOf p, ← look p.text with
    | .ok place, some e => addWay (disk.put place e) absolute p.names names
    | _, _ => return disk

def write (place : List String) (e : Entry) : IO Unit := do
  let p : FilePath :=
    if place.head? = some Disk.root then ⟨true, place.drop 1⟩ else ⟨false, place⟩
  match e with
  | .directory => IO.FS.createDirAll p.text
  | .file bytes => IO.FS.writeBinFile p.text ⟨bytes.toArray⟩

end ApiDoc.Program

open ApiDoc in
def main (words : List String) : IO UInt32 := do
  let before ← (CommandLine.pathsNamed words).foldlM
    (fun disk p => Program.addWay disk p.absolute [] p.names) ({} : Disk)
  let outcome := CommandLine.run before words
  for (place, e) in outcome.disk.entries do
    if before.content? place ≠ some e then Program.write place e
  IO.print outcome.output
  if let some e := outcome.escape then IO.eprintln e.message
  return .ofNat outcome.exitCode
