import ErpLens.Program
import ErpLens.Report.Layout
import ErpLens.Retrieval.Chunk

/-!
# Storing chunks

Chunks go to a collection of the store, each with an id made from its file, its place among the
chunks of the file and its first line.
-/

namespace ErpLens.Retrieval

open Program Report Procedure

structure Store where
  collection : Option String := none

def storePath : String := "./chroma_db"

def defaultCollection : String := "erpnext_code"

def openStore : Program Store := do
  ask (.openStore storePath)
  return {}

def openCollection (name : String) : Program Store := do
  ask (.openCollection name)
  let workspace ← get
  match workspace.service.collectionFailures with
  | failures + 1 =>
    set { workspace with
      service := { workspace.service with collectionFailures := failures } }
    fail (.failed "collection failure")
  | 0 =>
    say (Color.green.paint ("✓ Collection ready: " ++ name))
    return { collection := some name }

def chunkId (path : String) (index : Nat) (startLine : String) : String :=
  s!"{path}_{index}_{startLine}"

def storedFile (path : String) : String :=
  Files.Path.forwardSlashes (Files.Path.normalize path)

/-- The folder of a file as it is named in the store; a file without a folder in its path has none.
-/
def storedFolder (current : List String) (path : String) : Outcome String :=
  match Files.Path.relativeTo? current (Files.Path.parent path) "." with
  | some folder => .ok (storedFile folder)
  | none => .error (.badValue "no path specified")

def storeChunk (store : Store) (path : String) (index : Nat) (chunk : Value) : Program Unit := do
  let start ← chunk.key "start_line"
  if store.collection.isNone then fail (Value.null.noField "add")
  let document ← chunk.key "text"
  let folder ← storedFolder (← files).current path
  let stop ← chunk.key "end_line"
  ask (.store
    { id := chunkId path index start.text
      document
      metadata := [("file", .str (storedFile path)), ("folder", .str folder),
        ("start_line", start), ("end_line", stop), ("chunk_index", .nat index)] })

def storeChunksFrom (store : Store) (path : String) : Nat → List Value → Program Unit
  | _, [] => return
  | index, chunk :: rest => do
    storeChunk store path index chunk
    storeChunksFrom store path (index + 1) rest

def storeChunks (store : Store) (path : String) (chunks : List Value) : Program Unit :=
  storeChunksFrom store path 0 chunks

def addFile (store : Store) (path : String) : Program Nat := do
  match Files.readSource (← files) path with
  | .error fault =>
    say (Color.red.paint s!"Error reading {path}: " ++ fault.message)
    return 0
  | .ok code =>
    let found ← chunks code defaultSize defaultOverlap
    storeChunks store path (found.map Chunk.toValue)
    return found.length

structure Ingested where
  files : Nat := 0
  chunks : Nat := 0
deriving Repr, DecidableEq

def Ingested.toValue (ingested : Ingested) : Value :=
  .ofFields [("total_files", .nat ingested.files), ("total_chunks", .nat ingested.chunks)]

/-- Directories with these names are not looked into. -/
def passedDirectories : List String :=
  ["venv", "__pycache__", ".git", "node_modules", ".pytest_cache"]

/-- Stores the sources of a directory and counts them. -/
def storeSources (store : Store) (folder path : String) (directories names : List String) :
    Procedure Ingested (List String) := do
  let kept := directories.filter fun name => !passedDirectories.contains name
  names.forM fun name => do
    if Files.Path.hasSuffix ".py" name then
      let source := Files.Path.join path name
      let shown := Files.nameIn (← files) folder source
      let count ← addFile store source
      update fun ingested => { ingested with files := ingested.files + 1 }
      update fun ingested => { ingested with chunks := ingested.chunks + count }
      say (Color.green.paint s!"✓ {shown} ({count} chunks)")
  return kept

def addFolder (store : Store) (folder : String) : Program Ingested := do
  perform (Files.walk (← files) folder (storeSources store folder)) {}

end ErpLens.Retrieval
