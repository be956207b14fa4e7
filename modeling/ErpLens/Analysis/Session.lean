import ErpLens.Analysis.Calls
import ErpLens.Analysis.Entities
import ErpLens.Analysis.Issues
import ErpLens.Program

/-!
# Sessions

The three analyses keep state from one source to the next. A `Session` is this state, and every step
says what it answers and what it leaves.
-/

namespace ErpLens.Analysis

open Source

def outlineOf (code : String) : Except SyntaxFault Outline :=
  (parse code).map Module.outline

def syntaxFault : SyntaxFault → Fault
  | .nullCharacter => .malformedSource true
  | .malformed => .malformedSource false

def printFault (fault : PrintFault) : Fault :=
  .badValue fault.message

/-! ## Entities -/

structure Extractor where
  entities : FileEntities := {}
  currentFile : String := ""

def lineCount (code : String) : Nat :=
  (Text.lines code).length

structure Extraction where
  extractor : Extractor
  printed : List String := []
  fault : Option Fault := none

def extractSource (path code : String) : Extraction :=
  let source := some (path, lineCount code)
  match outlineOf code with
  | .error fault =>
    { extractor := { entities := { source }, currentFile := path }
      printed := [s!"Syntax error in {path}: " ++ (syntaxFault fault).message] }
  | .ok outline =>
    let (entities, fault) := entitiesOf outline
    { extractor := { entities := { entities with source }, currentFile := path }
      fault := fault.map printFault }

/-- Takes the entities of the file at a path. A file that cannot be read leaves everything as it
was. -/
def extractFile (files : Files.Disk) (extractor : Extractor) (path : String) : Extraction :=
  match Files.readSource files path with
  | .error fault =>
    { extractor, printed := [s!"Error reading file {path}: " ++ fault.message] }
  | .ok code => extractSource path code

structure DirectoryEntities where
  files : List FileEntities := []

def DirectoryEntities.classes (found : DirectoryEntities) : List ClassEntity :=
  found.files.flatMap (·.classes)

def DirectoryEntities.functions (found : DirectoryEntities) : List FunctionEntity :=
  found.files.flatMap (·.functions)

def DirectoryEntities.imports (found : DirectoryEntities) : List ImportEntity :=
  found.files.flatMap (·.imports)

def DirectoryEntities.toValue (found : DirectoryEntities) : Value :=
  .ofFields [
    ("classes", .list (found.classes.map fun entity => .ofFields entity.fields)),
    ("functions", .list (found.functions.map fun entity => .ofFields entity.fields)),
    ("imports", .list (found.imports.map fun entity => .ofFields entity.fields)),
    ("files", .list (found.files.map FileEntities.toValue))]

def extractFiles (files : Files.Disk) (extractor : Extractor) :
    List String → List FileEntities × Extraction
  | [] => ([], { extractor })
  | path :: rest =>
    let step := extractFile files extractor path
    match step.fault with
    | some _ => ([], step)
    | none =>
      let (more, last) := extractFiles files step.extractor rest
      (step.extractor.entities :: more, { last with printed := step.printed ++ last.printed })

def inCache (path : String) : Bool :=
  Text.contains path "__pycache__"

def extractablePaths (files : Files.Disk) (path : String) : List String :=
  (Files.matchSources files path).filter fun found => !inCache found

def extractDirectory (files : Files.Disk) (extractor : Extractor) (path : String) :
    DirectoryEntities × Extraction :=
  let (found, last) := extractFiles files extractor (extractablePaths files path)
  ({ files := found }, last)

/-! ## Calls -/

structure CallDetector where
  records : List CallRecord := []
  functionCalls : List (String × List String) := []
  currentFunction : Option String := none

def CallDetector.detect (detector : CallDetector) (code : String) : CallDetector × Value :=
  match outlineOf code with
  | .error _ => ({ currentFunction := detector.currentFunction }, callReport none)
  | .ok outline =>
    let records := callRecords outline
    let last := ((definitions outline).map Prod.fst).getLast?
    ({ records
       functionCalls := Analysis.functionCalls outline
       currentFunction := last.orElse fun _ => detector.currentFunction },
      callReport (some records))

/-! ## Issues -/

def Issues.analyze (issues : Issues) (code : String) : Outcome Issues :=
  match outlineOf code with
  | .error fault => .error (syntaxFault fault)
  | .ok outline =>
    let found := issuesOf outline
    .ok { errors := issues.errors ++ found.errors, warnings := issues.warnings ++ found.warnings }

structure Session where
  extractor : Extractor := {}
  detector : CallDetector := {}
  issues : Issues := {}

end ErpLens.Analysis
