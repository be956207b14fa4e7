import ErpLens.Decimal.Fixed
import ErpLens.Json.Read
import ErpLens.Report.Print
import ErpLens.Retrieval.Store

/-!
# Questions about stored chunks

A question gives the chunks nearest to it, in one file or below one folder if that is asked for; an
answer is made from them by the language model, and questions with their answers are kept in a log.
-/

namespace ErpLens.Retrieval

open Program

structure Scope where
  file : Option String := none
  folder : Option String := none
deriving Repr, DecidableEq

def given (text : Option String) : Option String :=
  text.filter fun text => !text.isEmpty

/-- Whether a hit passes the test for a folder: its own folder, written in the normal form, starts
with the text of the folder. -/
def passes (folder : String) (hit : Hit) : Outcome Bool := do
  match ← Report.keyOr hit.metadata "folder" (.str "") with
  | .str found => return Text.startsWith (storedFile found) (storedFile folder)
  | other => throw (.wrongType
      s!"expected str, bytes or os.PathLike object, not {other.kindName}")

def keepPassing (folder : String) : List Hit → Outcome (List Hit)
  | [] => .ok []
  | hit :: rest => do
    let passing ← passes folder hit
    let kept ← keepPassing folder rest
    return if passing then hit :: kept else kept

/-- What the store gives for a question: three lists side by side. -/
structure Retrieved where
  documents : List Value := []
  metadatas : List Value := []
  distances : List Value := []

namespace Retrieved

def ofHits (hits : List Hit) : Retrieved where
  documents := hits.map (·.document)
  metadatas := hits.map (·.metadata)
  distances := hits.map (·.distance)

/-- What stands side by side, as far as all three lists go. -/
def hits (found : Retrieved) : List Hit :=
  (found.documents.zip (found.metadatas.zip found.distances)).map fun row =>
    ⟨row.1, row.2.1, row.2.2⟩

end Retrieved

def scopeHits (folder : Option String) (found : Retrieved) : Outcome Retrieved :=
  match given folder with
  | none => .ok found
  | some folder => return .ofHits (← keepPassing folder found.hits)

def defaultCount : Int := 10

/-- What is found for a question; `none` if no collection is open. -/
def query (store : Store) (question : String) (count : Value) (scope : Scope) :
    Program (Option Retrieved) := do
  if store.collection.isNone then return none
  ask (.nearest question count ((given scope.file).map storedFile))
  return some (← scopeHits scope.folder (.ofHits (← service).hits))

def notOpen : String := "Collection not initialized"

def queryValue (question : String) : Option Retrieved → Value
  | none => .ofFields [("error", .str notOpen)]
  | some found =>
    .ofFields [("query", .str question), ("chunks", .list found.documents),
      ("metadata", .list found.metadatas), ("distances", .list found.distances)]

/-! ## Searching -/

def similarity (distance : Value) : Outcome Value :=
  match distance.num? with
  | some (.int value) => .ok (.int (1 - value))
  | some (.float value) => .ok (.float (Decimal.roundTo 4 (1.0 - value)))
  | none =>
    .error (.wrongType s!"unsupported operand type(s) for -: 'int' and '{distance.kindName}'")

def searchResult (hit : Hit) : Outcome Value := do
  let file ← hit.metadata.get "file"
  let start ← hit.metadata.get "start_line"
  let stop ← hit.metadata.get "end_line"
  return .ofFields [("file", file), ("start_line", start), ("end_line", stop),
    ("code", hit.document), ("similarity", ← similarity hit.distance)]

def search (store : Store) (keyword : String) (count : Value) : Program (List Value) := do
  match ← query store keyword count {} with
  | none => return []
  | some found => found.hits.mapM fun hit => searchResult hit

/-! ## Answering -/

def contextPart (document metadata : Value) : Outcome String := do
  let file ← metadata.key "file"
  let start ← metadata.key "start_line"
  let stop ← metadata.key "end_line"
  match document with
  | .str text => return s!"[File: {file.text} | Lines {start.text}–{stop.text}]\n{text}\n\n"
  | other =>
    throw (.wrongType s!"unsupported operand type(s) for +: '{other.kindName}' and 'str'")

def answerPrompt (question : String) (found : Retrieved) : Outcome String := do
  let parts ← (found.documents.zip found.metadatas).mapM fun row => contextPart row.1 row.2
  return Text.joinLines [
    "", "    You are an ERPNext backend expert.", "", "    Use ONLY the context below to answer.",
    "", "    === RELEVANT CODE CONTEXT ===\n\n" ++ String.join parts, "", "    Question:",
    "    " ++ question, "", "    Give a concise, developer-focused answer.", "    "]

def answer (store : Store) (question : String) (scope : Scope) : Program String := do
  match ← query store question (.int defaultCount) scope with
  | none => return notOpen
  | some found =>
    if found.documents.isEmpty then return "No relevant code found for the given scope."
    let reply ← generate (← answerPrompt question found)
    return reply.getD "No response generated"

/-! ## State of the store -/

def statistics (store : Store) : Program Value := do
  match store.collection with
  | none => return .ofFields [("error", .str notOpen)]
  | some name =>
    return .ofFields [("collection", .str name), ("total_chunks", .int (← service).count),
      ("db_path", .str storePath)]

/-! ## The log -/

def defaultLog : String := "rag_queries.json"

def loggedValue? (root : Files.Disk) (path : String) : Option Value :=
  match Files.readBytes root path with
  | .error _ => none
  | .ok bytes => (Text.decodeUtf8? bytes).bind fun text =>
    Json.read (String.ofList (Text.unifyNewlines text.toList))

def readLog (root : Files.Disk) (path : String) : Value :=
  (loggedValue? root path).getD (.list [])

def logRecord (question answer : Value) : Value :=
  .ofFields [("question", question), ("answer", answer)]

def extendLog (log record : Value) : Outcome Value :=
  match log with
  | .list records => .ok (.list (records ++ [record]))
  | other => .error (other.noField "append")

def logAnswer (question answer : Value) (path : String) : Program Unit := do
  let extended ← extendLog (readLog (← files) path) (logRecord question answer)
  writeFile path (Json.pretty extended)

end ErpLens.Retrieval
