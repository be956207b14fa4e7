import ErpLens.Files.Tree
import ErpLens.Value.Basic

/-!
# Disks

What a program finds at a path depends on the tree from the root on and on the directory that the
program runs in. Opening a path gives the fault that reports show when there is no such file.
-/

namespace ErpLens.Files

/-- All directories and files, and the names on the way to the current directory. -/
structure Disk where
  root : Directory
  current : List String
  wellFormed : root.WellFormed
  valid : ∀ name ∈ current, ValidName name
  standing : ∃ entries, root.below? current = some entries

inductive Lookup where
  | found (node : Node)
  | missing
  /-- A file stands where a directory is needed. -/
  | blocked

/-- Follows components down from a directory; `above` holds the directories passed, innermost
first. Two dots go back up, but not above the root. -/
def follow (here : Directory) (above : List Directory) : List String → Lookup
  | [] => .found (.directory here)
  | part :: rest =>
    if part == "" || part == "." then follow here above rest
    else if part == ".." then
      match above with
      | [] => follow here [] rest
      | outer :: more => follow outer more rest
    else
      match here.find? part with
      | none => .missing
      | some (.directory inner) => follow inner (here :: above) rest
      | some (.file bytes) => if rest.isEmpty then .found (.file bytes) else .blocked

namespace Disk

/-- A place for a directory that says nothing of what else there is. -/
def home : List String := ["home", "erp", "work"]

/-- The disk that has nothing but a directory, which is the current one. -/
def of (entries : Directory) (wellFormed : entries.WellFormed) : Disk where
  root := .place (.directory entries) home []
  current := home
  wellFormed := .place wellFormed (by decide) .nil
  valid := by decide
  standing := ⟨entries, rfl⟩

def here (disk : Disk) : Directory :=
  (disk.root.below? disk.current).getD []

/-- A directory that is given alone is the current one. If its names are no names, it is not given.
-/
instance : Coe Directory Disk where
  coe entries :=
    if wellFormed : entries.WellFormed then of entries wellFormed else of [] .nil

instance : Coe Disk Directory where
  coe := here

end Disk

def lookup (disk : Disk) (path : String) : Lookup :=
  if path.isEmpty then .missing
  else follow disk.root [] (Path.startOf disk.current path ++ Path.components path)

def isDirectory (disk : Disk) (path : String) : Bool :=
  match lookup disk path with
  | .found (.directory _) => true
  | _ => false

def isFile (disk : Disk) (path : String) : Bool :=
  match lookup disk path with
  | .found (.file _) => true
  | _ => false

def readBytes (disk : Disk) (path : String) : Outcome (List UInt8) :=
  match lookup disk path with
  | .found (.file bytes) => .ok bytes
  | .found (.directory _) => .error (.isDirectory path)
  | .missing => .error (.noSuchFile path)
  | .blocked => .error (.notDirectory path)

def sourceText (bytes : List UInt8) : String :=
  String.ofList (Text.unifyNewlines (Text.decodeUtf8Lenient bytes).toList)

def readSource (disk : Disk) (path : String) : Outcome String :=
  (readBytes disk path).map sourceText

def Disk.place (disk : Disk) (bytes : List UInt8) (path : String) : Disk where
  root := disk.root.place (.file bytes) (Path.located disk.current path)
  current := disk.current
  wellFormed := .place (.file bytes) (Path.valid_of_mem_located disk.valid path) disk.wellFormed
  valid := disk.valid
  standing := disk.standing.elim fun _ led => Directory.exists_below?_place _ _ led

def Directory.isTaken (name : String) (entries : Directory) : Bool :=
  name == "." || name == ".." ||
    match entries.find? name with
    | some (.directory _) => true
    | _ => false

/-- Writes a file. The directory that it is to be in has to be there, and a path that ends in a
slash is that of a directory. -/
def writeBytes (disk : Disk) (path : String) (bytes : List UInt8) : Outcome Disk :=
  match Path.lastPart? path with
  | none => .error (if path.isEmpty then .noSuchFile path else .isDirectory path)
  | some (before, name) =>
    match follow disk.root [] (Path.startOf disk.current path ++ before) with
    | .missing => .error (.noSuchFile path)
    | .blocked | .found (.file _) => .error (.notDirectory path)
    | .found (.directory entries) =>
      if Directory.isTaken name entries || Path.endsInSlash path then .error (.isDirectory path)
      else .ok (disk.place bytes path)

/-- How a path is written as seen from a folder. -/
def nameIn (disk : Disk) (folder path : String) : String :=
  (Path.relativeTo? disk.current path folder).getD path

/-! ## Sources -/

/-- Shows everything below a folder, if there is one. -/
def walk {m : Type → Type} [Monad m] (disk : Disk) (folder : String)
    (visit : String → List String → List String → m (List String)) : m Unit :=
  match lookup disk folder with
  | .found node => walkNode visit folder node
  | _ => pure ()

def skippedDirectories : List String :=
  ["venv", "__pycache__", ".git", "node_modules", ".pytest_cache"]

/-- Notes the sources of a directory, and passes over some of the directories in it. -/
def noteSources (path : String) (directories files : List String) :
    StateM (List String) (List String) := do
  let kept := directories.filter fun name => !skippedDirectories.contains name
  files.forM fun name => do
    if Path.hasSuffix ".py" name then modify (· ++ [Path.join path name])
  return kept

def findSources (disk : Disk) (folder : String) : List String :=
  let ((), found) := (walk disk folder noteSources).run []
  found.mergeSort fun a b => decide (a ≤ b)

def matchSources (disk : Disk) (path : String) : List String :=
  match lookup disk (Path.tidy path) with
  | .found node => matchesOf (Path.tidy path) node
  | _ => []

end ErpLens.Files
