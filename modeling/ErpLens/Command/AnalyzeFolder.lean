import ErpLens.Command.AnalyzeFile
import ErpLens.Value.Arithmetic

/-!
# Analysing a folder

The sources below a folder are analysed one after the other, with one extractor and one call
detector. A file that fails is reported; what the others give is put together. Each tool has its own
loop and its own variables.
-/

namespace ErpLens.Command

open Program Report Analysis Procedure

def tagged (path : String) (fields : Fields) : Value :=
  .ofFields (fields ++ [("file", .str path)])

def folderResults : String := "folder_analysis_output.json"

namespace Suite

/-- The variables of the loop over the files. -/
structure Totals where
  extractor : Extractor := {}
  detector : CallDetector := {}
  classes : List Value := []
  functions : List Value := []
  issues : List Value := []
  details : Fields := []

/-- Takes what a file gives; `name` is its name in the folder. -/
def takeFile (path name : String) : Procedure Totals Unit := do
  let code ← readSource path
  let step := extractFile (← files) (← fetch).extractor path
  update fun totals => { totals with extractor := step.extractor }
  let entities := (← runExtraction step).entities
  let detected := (← fetch).detector.detect code
  update fun totals => { totals with detector := detected.1 }
  let found ← Issues.analyze {} code
  update fun totals => { totals with
    issues := totals.issues ++ [.ofFields (("file", .str name) :: found.fields)] }
  entities.classes.forM fun entity =>
    update fun totals => { totals with
      classes := totals.classes ++ [tagged name entity.fields] }
  entities.functions.forM fun entity =>
    update fun totals => { totals with
      functions := totals.functions ++ [tagged name entity.fields] }
  update fun totals => { totals with
    details := put name (.ofFields [("classes", .nat entities.classes.length),
      ("functions", .nat entities.functions.length)]) totals.details }

def inspectFile (folder : String) (count index : Nat) (path : String) :
    Procedure Totals Unit := do
  let name := Files.nameIn (← files) folder path
  try
    say s!"  [{index}/{count}] {name}"
    takeFile path name
  catch fault =>
    say (Color.red.paint s!"    Error in {name}: " ++ fault.message)

def analyzeFolder (folder : String) (saving : Bool) : Program Unit := do
  let root ← files
  if !Files.isDirectory root folder then
    say (Color.red.paint s!"ERROR: {folder} is not a directory")
    fail (.exit 1)
  say (Color.cyan.paint s!"Analyzing folder: {folder}\n")
  let paths := Files.findSources root folder
  if paths.isEmpty then
    say (Color.red.paint s!"No Python files found in {folder}")
    fail (.exit 1)
  let count := paths.length
  say (Color.green.paint s!"Found {count} Python files\n")
  say (Color.yellow.paint "[1/3] Analyzing files...")
  let totals ← perform ((paths.zipIdx 1).forM fun entry =>
    inspectFile folder count entry.2 entry.1) {}
  say ("\n" ++ Color.yellow.paint "[3/3] Generating analysis...\n")
  let entities := Value.ofFields [("classes", .list totals.classes),
    ("functions", .list totals.functions), ("imports", .list [])]
  let relationships := Value.ofFields [("calls", .list []),
    ("stats", .ofFields [("total_calls", .nat 0)])]
  Report.folderSummary folder (.ofFields totals.details) entities relationships
  Report.entities entities
  say (Color.green.paint "\n✓ Folder analysis complete!\n")
  if saving then
    Report.save (.ofFields [("folder", .str folder), ("files_analyzed", .nat count),
      ("file_details", .ofFields totals.details), ("entities", entities),
      ("issues", .list totals.issues)]) folderResults

end Suite

namespace Analyzer

/-- The variables of the loop over the files. The calls are those that the reports on the files list
under `calls`. -/
structure Totals where
  extractor : Extractor := {}
  detector : CallDetector := {}
  classes : List Value := []
  functions : List Value := []
  imports : List Value := []
  calls : List Value := []
  totalCalls : Value := .int 0
  issues : List (String × Issues) := []
  details : Fields := []

/-- Takes what a file gives; `name` is its name in the folder. -/
def takeFile (path name : String) : Procedure Totals Unit := do
  let code ← readSource path
  let step := extractFile (← files) (← fetch).extractor path
  update fun totals => { totals with extractor := step.extractor }
  let entities := (← runExtraction step).entities
  let detected := (← fetch).detector.detect code
  let relationships := detected.2
  update fun totals => { totals with detector := detected.1 }
  let found ← Issues.analyze {} code
  update fun totals => { totals with issues := totals.issues ++ [(name, found)] }
  entities.classes.forM fun entity =>
    update fun totals => { totals with
      classes := totals.classes ++ [tagged name entity.fields] }
  entities.functions.forM fun entity =>
    update fun totals => { totals with
      functions := totals.functions ++ [tagged name entity.fields] }
  entities.imports.forM fun entity =>
    update fun totals => { totals with
      imports := totals.imports ++ [tagged name entity.fields] }
  (← (← keyOr relationships "calls" (.list [])).items).forM fun call => do
    let call ← call.setItem (.str "file") (.str name)
    update fun totals => { totals with calls := totals.calls ++ [call] }
  let sum ← Value.plus (← fetch).totalCalls (← Report.totalCalls relationships)
  update fun totals => { totals with totalCalls := sum }
  update fun totals => { totals with
    details := put name (.ofFields [("classes", .nat entities.classes.length),
      ("functions", .nat entities.functions.length),
      ("imports", .nat entities.imports.length)]) totals.details }

def inspectFile (folder : String) (count index : Nat) (path : String) :
    Procedure Totals Unit := do
  let name := Files.nameIn (← files) folder path
  try
    say s!"  [{index}/{count}] {name}"
    takeFile path name
  catch fault =>
    say (Color.red.paint s!"    Error in {name}: " ++ fault.message)

def namesAt (key : String) (calls : List Value) : Outcome (List String) :=
  calls.mapM fun call => return (← call.key key).text

/-- The statistics of a folder: the sum of what its files count, and the names in the calls that
they list. -/
def statistics (total : Value) (calls : List Value) : Outcome Value := do
  let callers ← namesAt "caller" calls
  let callees ← namesAt "callee" calls
  return .ofFields [("total_calls", total),
    ("unique_callers", .nat callers.eraseDups.length),
    ("unique_callees", .nat callees.eraseDups.length),
    ("most_called", rankingValue (mostFrequent rankedNames callees))]

def showIssues (issues : List (String × Issues)) : Program Unit := do
  let failing := issues.filter fun entry => !Issues.isEmpty entry.2
  failing.forM fun entry => do
    say ("\n" ++ Color.cyan.paint ("File: " ++ entry.1))
    entry.2.errors.forM fun issue => say (issueLine .red "❌" issue)
    entry.2.warnings.forM fun issue => say (issueLine .yellow "⚠️" issue)
  if failing.isEmpty then say noIssues

def sample (path code : String) : String :=
  s!"# File: {path}\n" ++ Text.take 500 code

def sampleSources (paths : List String) : Program String := do
  let samples ← (paths.take 3).mapM fun path => do
    return sample path (← readSource path)
  return Text.joinLines samples

def analyzeFolder (folder : String) (saving : Bool) : Program Unit := do
  let root ← files
  if !Files.isDirectory root folder then
    say (Color.red.paint s!"ERROR: {folder} is not a directory")
    fail (.exit 1)
  say (Color.cyan.paint s!"Analyzing folder: {folder}\n")
  let paths := Files.findSources root folder
  if paths.isEmpty then
    say (Color.red.paint s!"No Python files found in {folder}")
    fail (.exit 1)
  let count := paths.length
  say (Color.green.paint s!"Found {count} Python files\n")
  say (Color.yellow.paint "[1/3] Extracting code structure from all files...")
  say (Color.yellow.paint "[1/3] Analyzing files...")
  let totals ← perform ((paths.zipIdx 1).forM fun entry =>
    inspectFile folder count entry.2 entry.1) {}
  let stats ← statistics totals.totalCalls totals.calls
  say ("\n" ++ Color.yellow.paint "[3/3] Generating analysis...\n")
  let entities := Value.ofFields [("classes", .list totals.classes),
    ("functions", .list totals.functions), ("imports", .list totals.imports)]
  let relationships := Value.ofFields [("calls", .list totals.calls), ("stats", stats)]
  Report.folderSummary folder (.ofFields totals.details) entities relationships
  Report.entities entities
  Report.relationships relationships
  say ("\n" ++ Color.yellow.paint ">>> DETECTED ISSUES")
  showIssues totals.issues
  say modelLine
  let code ← sampleSources paths
  let insights ← Report.insights code entities relationships
  Report.assessment insights
  if saving then
    Report.save (.ofFields [("folder", .str folder), ("files_analyzed", .nat count),
      ("file_details", .ofFields totals.details), ("entities", entities),
      ("relationships", relationships), ("ai_analysis", .str insights),
      ("issues", .list (totals.issues.map fun entry => .ofFields [("file", .str entry.1),
        ("errors", .list (entry.2.errors.map Issue.toValue)),
        ("warnings", .list (entry.2.warnings.map Issue.toValue))]))]) folderResults
  say (Color.green.paint "\n✓ Folder analysis complete!\n")

end Analyzer

def analyzeFolder : Tool → String → Bool → Program Unit
  | .suite => Suite.analyzeFolder
  | .analyzer => Analyzer.analyzeFolder

end ErpLens.Command
