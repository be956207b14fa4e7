import ErpLens.Accounts.Template.Lines
import ErpLens.Accounts.Template.Verdict

/-!
# Circular and missing dependencies

A search from every code along the dependencies, depth first. Meeting a code that is entered and not
finished closes a circle. Codes of the path are never entered again, so a path never gets longer
than the graph, and a search that goes deeper than that would never end.
-/

namespace ErpLens.Accounts.Template

inductive Mark where
  | entered
  | finished
deriving Repr, DecidableEq

structure Search where
  marks : List (String × Mark) := []
  circles : List (List String) := []

namespace Search

def markOf (search : Search) (code : String) : Option Mark :=
  search.marks.lookup code

def put (search : Search) (code : String) (mark : Mark) : Search :=
  { search with marks := (code, mark) :: search.marks }

end Search

def pathFrom (path : List String) (code : String) : Outcome (List String) :=
  match path.dropWhile (· != code) with
  | [] => .error (.badValue s!"{Text.quote code} is not in list")
  | part => .ok part

namespace Graph

/-- Follows the dependencies of a code that was reached along a path, at most to some depth. -/
def visit (graph : Graph) : Nat → List String → String → Search → Outcome Search
  | 0, _, _, _ => .error .endless
  | depth + 1, path, code, search =>
    match graph.lookup code with
    | none => .ok search
    | some targets =>
      match search.markOf code with
      | some .entered => do
        return { search with circles := search.circles ++ [(← pathFrom path code) ++ [code]] }
      | some .finished => .ok search
      | none => do
        let search ← targets.foldlM (fun search target =>
          visit graph depth (path ++ [code]) target search) (search.put code .entered)
        return search.put code .finished

def searchFrom (graph : Graph) (depth : Nat) (search : Search) (code : String) : Outcome Search :=
  match search.markOf code with
  | none => graph.visit depth [] code search
  | some _ => .ok search

def searchWithin (graph : Graph) (depth : Nat) : Outcome Search :=
  (graph.map Prod.fst).foldlM (graph.searchFrom depth) {}

def search (graph : Graph) : Outcome Search :=
  graph.searchWithin (graph.length + 1)

end Graph

def circleIssue (circle : List String) : Issue where
  message := "Circular dependency detected: " ++ " → ".intercalate circle

def Search.verdict (search : Search) : Verdict Issue :=
  { errors := search.circles.map circleIssue }

def rowNumber (resolver code : Value) : Outcome Value := do
  let rows ← (← (← resolver.field "template").field "rows").items
  for row in rows do
    if (← row.field "reference_code") == code then return ← row.field "idx"
  return .null

def lineNumber (lines : List Line) (code : String) : Value :=
  match lines.find? fun line => line.code == code with
  | some line => (line.row.field? "idx").getD .null
  | none => .null

def checkMissing (lines : List Line) (graph : Graph) : Verdict Issue :=
  { errors := graph.filterMap fun (code, targets) =>
      match targets.filter fun target => !(codes lines).contains target with
      | [] => none
      | undefined => some {
          message := "Line References undefined in Formula: " ++ ", ".intercalate undefined
          line := lineNumber lines code } }

def checkDependencies (lines : List Line) (graph : Graph) : Outcome (Verdict Issue) := do
  return (← graph.search).verdict.merge (checkMissing lines graph)

/-! ## Templates with their dependencies -/

def resolve (template : Value) : Outcome Value := do
  return .object "DependencyValidator" [("template", template),
    ("dependencies", (dependencies (← linesOf template)).toValue)]

def checkResolvedCircles (resolver : Value) : Outcome (Verdict Issue) := do
  let graph ← Graph.ofValue (← resolver.field "dependencies")
  return (← graph.search).verdict

def checkResolved (resolver : Value) : Outcome (Verdict Issue) := do
  let graph ← Graph.ofValue (← resolver.field "dependencies")
  checkDependencies (← linesOf (← resolver.field "template")) graph

end ErpLens.Accounts.Template
