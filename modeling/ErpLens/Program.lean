import ErpLens.Files.Disk
import ErpLens.Service
import ErpLens.Value.Text

/-!
# Programs

A program reads and writes files, prints lines, and asks the services. What it has printed, written
and asked stays when it fails.
-/

namespace ErpLens

structure Workspace where
  files : Files.Disk
  service : Service
  printed : String := ""
  requests : List Request := []

abbrev Program := ExceptT Fault (StateM Workspace)

namespace Program

def runIn {α : Type} (program : Program α) (workspace : Workspace) : Outcome α × Workspace :=
  StateT.run (ExceptT.run program) workspace

def fail {α : Type} (fault : Fault) : Program α :=
  throw fault

def put (text : String) : Program Unit :=
  modify fun workspace => { workspace with printed := workspace.printed ++ text }

def say (line : String) : Program Unit :=
  put (line ++ "\n")

def ask (request : Request) : Program Unit :=
  modify fun workspace => { workspace with requests := workspace.requests ++ [request] }

def service : Program Service :=
  return (← get).service

def files : Program Files.Disk :=
  return (← get).files

def readSource (path : String) : Program String := do
  Files.readSource (← files) path

def writeFile (path text : String) : Program Unit := do
  let changed ← Files.writeBytes (← files) path (Text.encodeUtf8 text)
  modify fun workspace => { workspace with files := changed }

def attempt {α : Type} (program : Program α) : Program (Outcome α) :=
  fun workspace =>
    let (outcome, after) := program.runIn workspace
    (.ok outcome, after)

def generate (prompt : String) : Program (Option String) := do
  ask (.generate "gemini-2.5-flash" prompt)
  match (← service).reply with
  | .text value => return some value
  | .nothing => return none
  | .failure message => fail (.failed message)

end Program

/-- A program with variables of its own. What has been assigned to them stays when a part of it
fails. -/
abbrev Procedure (σ : Type) := ExceptT Fault (StateT σ (StateM Workspace))

namespace Procedure

variable {σ α : Type}

def runIn (procedure : Procedure σ α) (locals : σ) (workspace : Workspace) :
    (Outcome α × σ) × Workspace :=
  StateT.run (StateT.run (ExceptT.run procedure) locals) workspace

instance : MonadLift Program (Procedure σ) where
  monadLift program := fun locals workspace =>
    let (outcome, after) := program.runIn workspace
    ((outcome, locals), after)

def fetch : Procedure σ σ :=
  fun locals workspace => ((.ok locals, locals), workspace)

def update (change : σ → σ) : Procedure σ Unit :=
  fun locals workspace => ((.ok (), change locals), workspace)

/-- Runs a procedure with variables that start as given, and returns what becomes of them. -/
def perform (procedure : Procedure σ Unit) (start : σ) : Program σ :=
  fun workspace =>
    let ((outcome, locals), after) := procedure.runIn start workspace
    (outcome.map fun _ => locals, after)

end Procedure

end ErpLens
