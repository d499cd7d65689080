import ApiDoc.Files.Path
import ApiDoc.Text.Quoted

/-!
# Files and directories

A `Disk` says which files and directories there are. Reading and writing follow a path name by name:
every name before the last one has to be that of a directory, and a step up leads out of it. A place
is the list of names that lead to it; the directories that the starting directory is in have no
names there but steps up.
-/

namespace ApiDoc

/-- What a path can lead to. -/
inductive Entry where
  | file (bytes : List UInt8)
  | directory
  deriving DecidableEq, Repr

/-- The files and directories below the starting directory, by the names that lead to them. -/
structure Disk where
  entries : List (List String × Entry) := []

/-- Why a path cannot be used. -/
inductive FileError where
  | missing (path : String)
  | exists_ (path : String)
  | notDirectory (path : String)
  | isDirectory (path : String)
  deriving DecidableEq, Repr

/-- The sentence about a path that cannot be used. -/
def FileError.message : FileError → String
  | missing p => "[Errno 2] No such file or directory: " ++ Text.quoted p
  | exists_ p => "[Errno 17] File exists: " ++ Text.quoted p
  | notDirectory p => "[Errno 20] Not a directory: " ++ Text.quoted p
  | isDirectory p => "[Errno 21] Is a directory: " ++ Text.quoted p

namespace Disk

/-- The name of the root. -/
def root : String := "/"

/-- Whether a place is always there: the root, the starting directory and those it is in. -/
def isGiven (place : List String) : Bool := place = [root] || place.all (· = "..")

def content? (d : Disk) (place : List String) : Option Entry :=
  if isGiven place then some .directory else d.entries.lookup place

/-- The place one step up. -/
def above (place : List String) : List String :=
  if place = [root] then place
  else if place.all (· = "..") then place ++ [".."]
  else place.dropLast

/-- The place that names lead to from a place. -/
def follow (d : Disk) (path : String) (place : List String) :
    List String → Except FileError (List String)
  | [] => .ok place
  | name :: names =>
    match d.content? place with
    | none => .error (.missing path)
    | some (.file _) => .error (.notDirectory path)
    | some .directory =>
      if name = ".." then d.follow path (above place) names
      else d.follow path (place ++ [name]) names

/-- The place that a path leads to. -/
def placeOf (d : Disk) (p : FilePath) : Except FileError (List String) :=
  d.follow p.text (if p.absolute then [root] else []) p.names

/-- What a path leads to. -/
def lookup (d : Disk) (p : FilePath) : Option Entry :=
  match d.placeOf p with
  | .ok place => d.content? place
  | .error _ => none

/-- Whether a text leads to something as a path. Other than in a path, a slash or a point at the end
counts: what is before it has to be a directory. -/
def hasText (d : Disk) (s : String) : Bool :=
  let p := FilePath.ofText s
  let names := Text.pieces '/' s.toList
  !s.isEmpty &&
    match d.lookup p with
    | some (.file _) => names.getLast?.any fun n => !n.isEmpty && n ≠ ['.']
    | some .directory => true
    | none => false

/-- Whether a path leads to a directory. -/
def hasDirectory (d : Disk) (p : FilePath) : Bool := d.lookup p = some .directory

/-- The bytes of a file. -/
def read (d : Disk) (p : FilePath) : Except FileError (List UInt8) := do
  match d.content? (← d.placeOf p) with
  | some (.file bytes) => return bytes
  | some .directory => throw (.isDirectory p.text)
  | none => throw (.missing p.text)

/-- Sets what is at a place. -/
def put (d : Disk) (place : List String) (e : Entry) : Disk :=
  { entries := d.entries.filter (·.1 ≠ place) ++ [(place, e)] }

def write (d : Disk) (p : FilePath) (bytes : List UInt8) : Except FileError Disk := do
  let place ← d.placeOf p
  match d.content? place with
  | some .directory => throw (.isDirectory p.text)
  | _ => return d.put place (.file bytes)

def makeDirectory (d : Disk) (p : FilePath) : Except FileError Disk := do
  let place ← d.placeOf p
  match d.content? place with
  | some _ => throw (.exists_ p.text)
  | none => return d.put place .directory

/-- Makes a directory, unless it is there already. -/
def ensureDirectory (d : Disk) (p : FilePath) : Except FileError Unit × Disk :=
  match d.makeDirectory p with
  | .ok made => (.ok (), made)
  | .error e => (if d.hasDirectory p then .ok () else .error e, d)

/-- Makes the directory that names in reverse order lead to, and those it is in. Directories that
have been made stay, even if a further one cannot be made. -/
def makeDirectoriesAt (d : Disk) (absolute : Bool) : List String → Except FileError Unit × Disk
  | [] => d.ensureDirectory ⟨absolute, []⟩
  | name :: outer =>
    let p : FilePath := ⟨absolute, (name :: outer).reverse⟩
    match d.makeDirectory p with
    | .error (.missing _) =>
      match d.makeDirectoriesAt absolute outer with
      | (.ok (), made) => made.ensureDirectory p
      | failed => failed
    | _ => d.ensureDirectory p

/-- Makes a directory and those it is in, as far as they are not there. -/
def makeDirectories (d : Disk) (p : FilePath) : Except FileError Unit × Disk :=
  d.makeDirectoriesAt p.absolute p.names.reverse

end Disk

end ApiDoc
