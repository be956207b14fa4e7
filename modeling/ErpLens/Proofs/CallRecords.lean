import ErpLens.Analysis.Session
import ErpLens.Proofs.Fields
import ErpLens.Proofs.Outcomes
import ErpLens.Proofs.OutlineSites
import Mathlib

/-!
# What the call detection records

The detection goes over the definitions and, for each, over the calls in it. Counting the same pairs
the other way round gives one record of a call for each function around it.
-/

open List

namespace ErpLens.Source

open Analysis Outline

/-- The record of a call in a function; only calls by a name or of a method have one. -/
def Call.recordFor (caller : String) : Call → Option CallRecord
  | ⟨.name id, line⟩ => some ⟨caller, id, line, .function⟩
  | ⟨.attribute _ attr, line⟩ => some ⟨caller, attr, line, .method⟩
  | _ => none

/-- The callee is a plain name or a method. -/
def Call.isNamed : Call → Bool
  | ⟨.name _, _⟩ => true
  | ⟨.attribute _ _, _⟩ => true
  | _ => false

/-- The records of a call: one for each function around it. -/
def CallSite.records (site : CallSite) : List CallRecord :=
  site.around.filterMap fun caller => site.call.recordFor caller

/-- The records of the calls in a definition. -/
def Definition.records (definition : Definition) : List CallRecord :=
  definition.calls.filterMap (Call.recordFor definition.name)

theorem callRecord_eq (caller : String) (mark : Mark) :
    callRecord caller mark = mark.call?.bind (Call.recordFor caller) := by
  cases mark with
  | call callee line => cases callee <;> rfl
  | _ => rfl

theorem Call.recordFor_caller {caller : String} {call : Call} {record : CallRecord}
    (recorded : call.recordFor caller = some record) : record.caller = caller := by
  unfold Call.recordFor at recorded
  split at recorded <;> simp only [Option.some.injEq, reduceCtorEq] at recorded
  all_goals rw [← recorded]

theorem Call.isSome_recordFor (caller : String) (call : Call) :
    (call.recordFor caller).isSome = call.isNamed := by
  unfold Call.recordFor Call.isNamed
  split <;> simp_all

theorem CallSite.length_records (site : CallSite) :
    site.records.length = if site.call.isNamed then site.around.length else 0 := by
  rw [CallSite.records, length_filterMap_eq_countP]
  simp only [Call.isSome_recordFor]
  cases site.call.isNamed <;> simp

namespace Outline

/-! ## Counting the pairs of a definition and a call in it -/

/-- The calls in a forest of outlines. -/
def callsOf (forest : List Outline) : List Call :=
  (Tree.forestLabels forest).filterMap Mark.call?

/-- The records of calls for several callers. -/
def recordsBy (callers : List String) (calls : List Call) : List CallRecord :=
  callers.flatMap fun caller => calls.filterMap (Call.recordFor caller)

/-- The records of all definitions in a forest. -/
def definitionRecords (forest : List Outline) : List CallRecord :=
  (forestDefinitions forest).flatMap fun (name, tree) =>
    (callsOf [tree]).filterMap (Call.recordFor name)

theorem callsOf_cons (tree : Outline) (rest : List Outline) :
    callsOf (tree :: rest) = callsOf [tree] ++ callsOf rest := by
  simp [callsOf, Tree.forestLabels_cons, Tree.forestLabels_nil]

theorem callsOf_node (mark : Mark) (children : List Outline) :
    callsOf [.node mark children] = mark.call?.toList ++ callsOf children := by
  simp only [callsOf, Tree.forestLabels_cons, Tree.forestLabels_nil, append_nil,
    Tree.labels_node, filterMap_cons]
  cases mark.call? <;> rfl

theorem recordsBy_append (callers : List String) (left right : List Call) :
    (recordsBy callers (left ++ right)).Perm
      (recordsBy callers left ++ recordsBy callers right) := by
  simp only [recordsBy, filterMap_append]
  exact (flatMap_append_perm _ _ _).symm

theorem definitionRecords_cons (tree : Outline) (rest : List Outline) :
    definitionRecords (tree :: rest) = definitionRecords [tree] ++ definitionRecords rest := by
  have split := forestDefinitions_append [tree] rest
  simp only [cons_append, nil_append] at split
  simp [definitionRecords, split]

theorem records_own (around : List String) (call : Option Call) :
    (sitesAt around call.toList).flatMap CallSite.records = recordsBy around call.toList := by
  cases call with
  | none => simp [sitesAt, recordsBy]
  | some call =>
    have single (caller : String) :
        [call].filterMap (Call.recordFor caller) = (call.recordFor caller).toList := by
      cases recorded : call.recordFor caller <;> simp [recorded]
    simp only [Option.toList_some, sitesAt, recordsBy, map_cons, map_nil, flatMap_cons, flatMap_nil,
      append_nil, CallSite.records, single, filterMap_eq_flatMap_toList]

theorem call?_eq_none_of_functionName {mark : Mark} {name : String}
    (named : functionName mark = some name) : mark.call? = none := by
  cases mark with
  | function head document => rfl
  | _ => simp [functionName] at named

mutual

/-- Counting records by call site or by pairs of a caller around or inside and a call is the same.
The functions around the whole forest see every call of it. -/
theorem records_sites (around : List String) : ∀ tree : Outline,
    ((forestSites around [tree]).flatMap CallSite.records).Perm
      (recordsBy around (callsOf [tree]) ++ definitionRecords [tree])
  | .node mark children => by
      have below := records_forestSites (mark.inside around) children
      rw [forestSites_node, flatMap_append, records_own]
      cases named : functionName mark with
      | some name =>
        -- The function joins the callers of what is below it, and is itself a definition.
        have callless := call?_eq_none_of_functionName named
        have callsEq : callsOf [.node mark children] = callsOf children := by
          rw [callsOf_node, callless, Option.toList_none, nil_append]
        have definitionsEq : definitionRecords [.node mark children] =
            (callsOf children).filterMap (Call.recordFor name) ++
              definitionRecords children := by
          simp [definitionRecords, forestDefinitions_node, definition?, Tree.label_node, named,
            callsEq]
        have insideEq : mark.inside around = name :: around := by
          rw [Mark.inside, named]
        rw [insideEq] at below ⊢
        rw [callsEq, definitionsEq, callless, Option.toList_none, ← append_assoc]
        have callers : recordsBy (name :: around) (callsOf children) =
            (callsOf children).filterMap (Call.recordFor name) ++
              recordsBy around (callsOf children) := by
          rw [recordsBy, flatMap_cons, recordsBy]
        have none_own : recordsBy around [] = [] := by simp [recordsBy]
        rw [none_own, nil_append]
        rw [callers] at below
        exact below.trans (perm_append_comm.append_right _)
      | none =>
        have definitionsEq : definitionRecords [.node mark children] =
            definitionRecords children := by
          simp [definitionRecords, forestDefinitions_node, definition?, Tree.label_node, named]
        have insideEq : mark.inside around = around := by
          rw [Mark.inside, named]
        rw [insideEq] at below ⊢
        rw [definitionsEq, callsOf_node]
        refine (below.append_left _).trans ?_
        rw [← append_assoc]
        exact (recordsBy_append around _ _).symm.append_right _

theorem records_forestSites (around : List String) : ∀ forest : List Outline,
    ((forestSites around forest).flatMap CallSite.records).Perm
      (recordsBy around (callsOf forest) ++ definitionRecords forest)
  | [] => by
      simp [forestSites, recordsBy, callsOf, definitionRecords, forestDefinitions,
        Tree.forestSubtrees]
  | tree :: rest => by
      have first := records_sites around tree
      have others := records_forestSites around rest
      rw [forestSites, flatMap_append, callsOf_cons, definitionRecords_cons]
      have sitesEq : forestSites around [tree] = sites around tree := by
        rw [forestSites, forestSites, append_nil]
      rw [sitesEq] at first
      refine (first.append others).trans ?_
      -- The definitions of the first tree pass the records of the callers around the others.
      have swapped : (definitionRecords [tree] ++
          (recordsBy around (callsOf rest) ++ definitionRecords rest)).Perm
          (recordsBy around (callsOf rest) ++
            (definitionRecords [tree] ++ definitionRecords rest)) :=
        perm_append_comm_assoc _ _ _
      rw [append_assoc]
      refine (swapped.append_left _).trans ?_
      rw [← append_assoc]
      exact (recordsBy_append around _ _).symm.append_right _

end

mutual

theorem map_call_sites (around : List String) : ∀ tree : Outline,
    (sites around tree).map CallSite.call = callsOf [tree]
  | .node mark children => by
      have below := map_call_forestSites (mark.inside around) children
      have own : (sitesAt around mark.call?.toList).map CallSite.call = mark.call?.toList := by
        rw [sitesAt, map_map]
        exact map_id _
      rw [sites, map_append, own, below, callsOf_node]

theorem map_call_forestSites (around : List String) : ∀ forest : List Outline,
    (forestSites around forest).map CallSite.call = callsOf forest
  | [] => rfl
  | tree :: rest => by
      rw [forestSites, map_append, map_call_sites around tree,
        map_call_forestSites around rest, ← callsOf_cons]

end

/-! ## The order of the walks does not matter -/

theorem recordsOf_perm (name : String) (tree : Outline) :
    (recordsOf name tree).Perm ((callsOf [tree]).filterMap (Call.recordFor name)) := by
  have labelsEq : (callsOf [tree]).filterMap (Call.recordFor name) =
      tree.labels.filterMap (callRecord name) := by
    simp only [callsOf, Tree.forestLabels_cons, Tree.forestLabels_nil, append_nil,
      filterMap_filterMap, ← callRecord_eq]
  rw [labelsEq]
  exact (Tree.walk_perm tree).filterMap _

theorem definitions_perm (outline : Outline) :
    (definitions outline).Perm (forestDefinitions [outline]) := by
  have preorder : forestDefinitions [outline] = outline.subtrees.filterMap definition? := by
    simp [forestDefinitions, Tree.forestSubtrees]
  rw [preorder]
  exact (Tree.walkSubtrees_perm outline).filterMap definition?

theorem callRecords_perm (outline : Outline) :
    (callRecords outline).Perm (definitionRecords [outline]) :=
  (definitions_perm outline).flatMap fun (name, tree) _ => recordsOf_perm name tree

end Outline

/-! ## Back to the syntax tree -/

theorem Definition.calls_eq (definition : Definition) :
    definition.calls = callsOf [definition.stmt.outline] := by
  rw [Definition.calls, ← definition.stmt.stands.sites, map_call_forestSites]

theorem Module.callRecords_perm_definitions (tree : Module) :
    (callRecords tree.outline).Perm (tree.definitions.flatMap Definition.records) := by
  have recordsEq : definitionRecords [tree.outline] =
      tree.definitions.flatMap Definition.records := by
    rw [definitionRecords, tree.stands.definitions, flatMap_map]
    simp only [Definition.shown, ← Definition.calls_eq]
    rfl
  rw [← recordsEq]
  exact callRecords_perm tree.outline

/-- The records are those of the call sites, in another order. -/
theorem Module.callRecords_perm_callSites (tree : Module) :
    (callRecords tree.outline).Perm (tree.callSites.flatMap CallSite.records) := by
  have counted := records_forestSites [] [tree.outline]
  have none_around (calls : List Call) : recordsBy [] calls = [] := rfl
  rw [tree.stands.sites, none_around, nil_append] at counted
  exact (callRecords_perm tree.outline).trans counted.symm

theorem length_flatMap_records (sites : List CallSite) :
    (sites.flatMap CallSite.records).length =
      ((sites.filter (·.call.isNamed)).map (·.around.length)).sum := by
  induction sites with
  | nil => rfl
  | cons site rest ih =>
    rw [flatMap_cons, length_append, ih, CallSite.length_records, filter_cons]
    cases site.call.isNamed <;> simp

end ErpLens.Source

namespace ErpLens.Analysis

open Source

theorem key_caller (record : CallRecord) :
    record.toValue.key "caller" = .ok (.str record.caller) :=
  Value.key_ofFields rfl

theorem key_total_calls (records : List CallRecord) :
    (callStatistics records).key "total_calls" = .ok (.nat records.length) := by
  unfold callStatistics
  split <;> exact Value.key_ofFields rfl

/--
Whatever the detector has seen before, the records that it reports for a source are, up to order,
one for each function definition and each named call in it; equally, one for each named call site
and each function around it. So a call outside all functions is not recorded, every record names a
definition as its caller, and the total is the number of functions around each call site, summed.
-/
theorem detect_records_calls_of_definitions (detector : CallDetector) {code : String}
    {tree : Module} (parsed : parse code = .ok tree) :
    ∃ (records : List CallRecord) (stats : Value),
      (detector.detect code).2.key "relationships" = .ok (.list (records.map CallRecord.toValue)) ∧
      (detector.detect code).2.key "stats" = .ok stats ∧
      records.Perm (tree.definitions.flatMap Definition.records) ∧
      records.Perm (tree.callSites.flatMap CallSite.records) ∧
      (∀ value ∈ records.map CallRecord.toValue, ∃ definition ∈ tree.definitions,
        value.key "caller" = .ok (.str definition.name)) ∧
      stats.key "total_calls" =
        .ok (.nat ((tree.callSites.filter (·.call.isNamed)).map (·.around.length)).sum) := by
  have outlined : outlineOf code = .ok tree.outline := by
    rw [outlineOf, parsed]
    rfl
  have reported : (detector.detect code).2 = callReport (some (callRecords tree.outline)) := by
    rw [CallDetector.detect, outlined]
  rw [reported]
  refine ⟨callRecords tree.outline, callStatistics (callRecords tree.outline),
    Value.key_ofFields rfl, Value.key_ofFields rfl, tree.callRecords_perm_definitions,
    tree.callRecords_perm_callSites, ?_, ?_⟩
  · intro value valueMem
    rcases List.mem_map.mp valueMem with ⟨record, recordMem, rfl⟩
    have byDefinition := tree.callRecords_perm_definitions.mem_iff.mp recordMem
    rcases List.mem_flatMap.mp byDefinition with ⟨definition, definitionMem, recorded⟩
    rcases List.mem_filterMap.mp recorded with ⟨call, _, recordEq⟩
    refine ⟨definition, definitionMem, ?_⟩
    rw [key_caller, Call.recordFor_caller recordEq]
  · rw [key_total_calls, tree.callRecords_perm_callSites.length_eq, length_flatMap_records]

/-- Calls in a decorator, a default, a nested function and a lambda, and one outside. -/
def nestedSource : String :=
  "@d(a())\ndef f(x=b()):\n def g():\n  return lambda: o.m(c())\n return g()\nh()\n"

theorem detect_records_nested_calls :
    ∃ tree stats, parse nestedSource = .ok tree ∧
      (CallDetector.detect {} nestedSource).2.key "stats" = .ok stats ∧
      stats.key "total_calls" = .ok (.nat 8) := by
  have counted : ((parse nestedSource).toOption.map fun tree =>
      ((tree.callSites.filter (·.call.isNamed)).map (·.around.length)).sum) = some 8 := by
    decide +kernel
  rcases exists_ok_of_map_toOption counted with ⟨tree, parsed, counted⟩
  rcases detect_records_calls_of_definitions {} parsed with ⟨_, stats, _, found, _, _, _, total⟩
  rw [counted] at total
  exact ⟨tree, stats, parsed, found, total⟩

end ErpLens.Analysis
