import ErpLens.Accounts.Template.Lines

/-!
# The order in which lines are computed

Lines whose amounts come from elsewhere come first, then the calculated lines, each after those it
depends on, then the rest.
-/

namespace ErpLens.Accounts.Template

namespace Graph

def within (graph : Graph) (known : List String) (code : String) : List String :=
  (graph.next code).filter (· ∈ known)

def dependents (graph : Graph) (known : List String) (target : String) : List String :=
  known.flatMap fun code => ((graph.within known code).filter (· == target)).map fun _ => code

abbrev Waiting := List (String × Nat)

def release (code : String) : Waiting → Waiting × List String
  | [] => ([], [])
  | (key, count) :: rest =>
    if key = code then ((key, count - 1) :: rest, if count = 1 then [code] else [])
    else
      let (rest, ready) := release code rest
      ((key, count) :: rest, ready)

def settleFrom (graph : Graph) (known : List String) :
    Nat → Waiting → List String → List String
  | 0, _, _ => []
  | _ + 1, _, [] => []
  | fuel + 1, waiting, current :: queue =>
    let (waiting, ready) := (graph.dependents known current).foldl
      (fun (waiting, ready) code =>
        let (waiting, more) := release code waiting
        (waiting, ready ++ more)) (waiting, [])
    current :: settleFrom graph known fuel waiting (queue ++ ready)

/-- The codes in an order in which each comes after those that it depends on, without the codes on
or behind a circle. Each code enters the queue at most once, which bounds the work. -/
def settle (graph : Graph) (known : List String) : List String :=
  let waiting := known.map fun code => (code, (graph.within known code).length)
  let ready := (waiting.filter fun (_, count) => count = 0).map Prod.fst
  graph.settleFrom known known.length waiting ready

end Graph

def lastWithCode (lines : List (Line × Nat)) (code : String) : Option (Line × Nat) :=
  (lines.filter fun entry => entry.1.code == code).getLast?

def sortCalculated (graph : Graph) (lines : List Line) : List Line :=
  let numbered := lines.zipIdx
  let chosen := (graph.settle (codes lines)).filterMap (lastWithCode numbered)
  let rest := numbered.filter fun entry => !(chosen.map Prod.snd).contains entry.2
  (chosen ++ rest).map Prod.fst

def processingOrder (graph : Graph) (lines : List Line) : List Line :=
  lines.filter (·.origin == .customApi) ++ lines.filter (·.origin == .accountData) ++
    sortCalculated graph (lines.filter (·.origin == .calculated)) ++
    lines.filter (·.origin == .other)

def sortCalculatedRows (resolver rows : Value) : Outcome Value := do
  let rows ← rows.items
  let _ ← rows.mapM (·.field "reference_code")
  let graph ← Graph.ofValue (← resolver.field "dependencies")
  return .list ((sortCalculated graph (rows.map Line.ofRow)).map Line.row)

def orderRows (resolver : Value) : Outcome Value := do
  let rows ← (← resolver.field "rows").items
  let calculated ← rows.filterM fun row => do
    return (← row.field "data_source") == .str "Calculated Amount"
  let _ ← calculated.mapM (·.field "reference_code")
  let graph ← if calculated.isEmpty then pure [] else
    Graph.ofValue (← resolver.field "dependencies")
  return .list ((processingOrder graph (rows.map Line.ofRow)).map Line.row)

end ErpLens.Accounts.Template
