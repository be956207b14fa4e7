import ErpLens.Retrieval.Query

/-!
# Building and asking the store

The commands that store sources, search them and answer questions about them.
-/

namespace ErpLens.Command

open Program Report Retrieval

def buildStore (path collection : String) : Program Unit := do
  let _ ← openStore
  let store ← openCollection collection
  say (Color.yellow.paint "Building RAG database...\n")
  let root ← files
  if Files.isFile root path then
    say (Color.cyan.paint ("Adding file: " ++ path))
    let count ← addFile store path
    say (Color.green.paint s!"✓ Added {count} chunks\n")
  else if Files.isDirectory root path then
    say (Color.cyan.paint s!"Adding folder: {path}\n")
    let ingested ← addFolder store path
    say ("\n" ++ Color.green.paint "✓ RAG Database Built!")
    say s!"  Files: {ingested.files}"
    say s!"  Total chunks: {ingested.chunks}\n"
  else
    say (Color.red.paint ("Path not found: " ++ path))
    fail (.exit 1)
  say (Color.cyan.paint ("Collection: " ++ collection))
  let count := (← service).count
  say (Color.cyan.paint s!"Total chunks: {count}\n")

def askStore (question collection : String) (scope : Scope) : Program Unit := do
  let _ ← openStore
  let store ← openCollection collection
  say (Color.cyan.paint s!"Question: {question}\n")
  say (Color.yellow.paint "Searching codebase and generating answer...\n")
  let text ← answer store question scope
  say (Color.green.paint ">>> ANSWER")
  say (Color.lightGreen.paint text ++ plain ++ "\n")
  logAnswer (.str question) (.str text) defaultLog
  say (Color.cyan.paint s!"✓ Query saved to {defaultLog}\n")

def percent (share : Value) : Outcome String :=
  match share.num? with
  | some number => .ok (Decimal.fixedText 2 (number.toFloat * 100.0) ++ "%")
  | none =>
    .error (.wrongType s!"unsupported format string passed to {share.kindName}.__format__")

def shownCode : Int := 300

def resultLines (index : Nat) (result : Value) : Program Unit := do
  let file ← result.key "file"
  let start ← result.key "start_line"
  let stop ← result.key "end_line"
  say (Color.cyan.paint s!"[{index}] {file.text} (Lines {start.text}-{stop.text})")
  say (Color.yellow.paint ("Similarity: " ++ (← percent (← result.key "similarity")) ++ "\n"))
  let code ← (← result.key "code").slice shownCode
  say (Color.white.paint (code.text ++ "...\n"))

def showResults : Nat → List Value → Program Unit
  | _, [] => return
  | index, result :: rest => do
    resultLines index result
    showResults (index + 1) rest

def searchStore (keyword collection : String) : Program Unit := do
  let _ ← openStore
  let store ← match ← attempt (openCollection collection) with
    | .ok store => pure store
    | .error _ => do
      say (Color.yellow.paint "Creating new collection...")
      openCollection collection
  say (Color.cyan.paint s!"Searching for: {keyword}\n")
  let results ← search store keyword (.int defaultCount)
  if results.isEmpty then say (Color.yellow.paint "No results found\n")
  else
    say (Color.green.paint s!"Found {results.length} matches:\n")
    showResults 1 results

end ErpLens.Command
