import ErpLens.Source.Outline
import ErpLens.Value.Access

/-!
# Calls between functions

For every function of a source, the calls anywhere below its definition: one record for each call of
a plain name or of an attribute. A call inside nested functions is recorded once for each of them.
-/

namespace ErpLens.Analysis

open Source

inductive CallKind where
  | function
  | method
deriving Repr, DecidableEq

structure CallRecord where
  caller : String
  callee : String
  line : Nat
  kind : CallKind
deriving Repr, DecidableEq

def calleeOf : Expr → Option (String × CallKind)
  | .name id => some (id, .function)
  | .attribute _ attr => some (attr, .method)
  | _ => none

def callRecord (caller : String) : Mark → Option CallRecord
  | .call callee line =>
    (calleeOf callee).map fun (name, kind) => ⟨caller, name, line, kind⟩
  | _ => none

def functionName : Mark → Option String
  | .function head _ => some head.name
  | _ => none

def definitions (outline : Outline) : List (String × Outline) :=
  outline.walkSubtrees.filterMap fun tree =>
    (functionName tree.label).map fun name => (name, tree)

def recordsOf (name : String) (outline : Outline) : List CallRecord :=
  outline.walk.filterMap (callRecord name)

def callRecords (outline : Outline) : List CallRecord :=
  (definitions outline).flatMap fun (name, tree) => recordsOf name tree

def plainCallees (records : List CallRecord) : List String :=
  (records.filter (·.kind == .function)).map (·.callee)

def put {α : Type} (name : String) (value : α) : List (String × α) → List (String × α)
  | [] => [(name, value)]
  | (key, old) :: rest =>
    if key == name then (key, value) :: rest else (key, old) :: put name value rest

def functionCalls (outline : Outline) : List (String × List String) :=
  (definitions outline).foldl (fun table (name, tree) =>
    put name (plainCallees (recordsOf name tree)) table) []

def increment (name : String) : List (String × Nat) → List (String × Nat)
  | [] => [(name, 1)]
  | (key, count) :: rest =>
    if key == name then (key, count + 1) :: rest else (key, count) :: increment name rest

def tally (names : List String) : List (String × Nat) :=
  names.foldl (fun table name => increment name table) []

def ranking (names : List String) : List (String × Nat) :=
  (tally names).mergeSort fun a b => decide (b.2 ≤ a.2)

def mostFrequent (limit : Int) (names : List String) : List (String × Nat) :=
  Value.takeTo limit (ranking names)

def mostCalled (limit : Int) (records : List CallRecord) : List (String × Nat) :=
  mostFrequent limit (records.map (·.callee))

def mostCallsFrom (limit : Int) (records : List CallRecord) : List (String × Nat) :=
  mostFrequent limit (records.map (·.caller))

/-! ## As values -/

def CallKind.label : CallKind → String
  | .function => "function_call"
  | .method => "method_call"

def CallRecord.toValue (record : CallRecord) : Value :=
  .ofFields [("caller", .str record.caller), ("callee", .str record.callee),
    ("line", .nat record.line), ("type", .str record.kind.label)]

def rankingValue (counts : List (String × Nat)) : Value :=
  .list (counts.map fun (name, count) => .tuple [.str name, .nat count])

def rankedNames : Int := 5

def callStatistics (records : List CallRecord) : Value :=
  let totals := [("total_calls", Value.nat records.length),
    ("unique_callers", .nat (records.map (·.caller)).eraseDups.length),
    ("unique_callees", .nat (records.map (·.callee)).eraseDups.length)]
  if records.isEmpty then .ofFields totals
  else
    .ofFields (totals ++ [("most_called", rankingValue (mostCalled rankedNames records)),
      ("most_calls_from", rankingValue (mostCallsFrom rankedNames records))])

def callReport : Option (List CallRecord) → Value
  | none => .ofFields [("relationships", .list []), ("stats", .ofFields [])]
  | some records =>
    .ofFields [("relationships", .list (records.map CallRecord.toValue)),
      ("stats", callStatistics records)]

end ErpLens.Analysis
