import ErpLens.Proofs.CallRecords
import ErpLens.Proofs.Sessions

/-!
# The table of calls and the list of calls

The records keep every call of every definition. The table starts the entry of a name anew with
every definition, so that only the last one in breadth-first order is left.
-/

open List

namespace ErpLens.Source

open Analysis Outline

/-- The callee of a call by a plain name. -/
def Call.plainName? : Call → Option String
  | ⟨.name id, _⟩ => some id
  | _ => none

/-- The plain names called in an outline, level by level. -/
def Outline.calledNames (outline : Outline) : List String :=
  outline.breadthFirst.filterMap fun tree => tree.label.call?.bind Call.plainName?

theorem callRecord_plainName (name : String) (mark : Mark) :
    ((callRecord name mark).filter (·.kind == .function)).map (·.callee) =
      mark.call?.bind Call.plainName? := by
  cases mark with
  | call callee line => cases callee <;> rfl
  | _ => rfl

theorem plainCallees_recordsOf (name : String) (outline : Outline) :
    plainCallees (recordsOf name outline) = outline.calledNames := by
  rw [recordsOf, plainCallees, filter_filterMap, map_filterMap, Tree.walk_eq_map,
    Tree.walkSubtrees_eq_breadthFirst, filterMap_map]
  simp [callRecord_plainName, calledNames]

theorem Definition.calledNames_perm (definition : Definition) :
    definition.stmt.outline.calledNames.Perm (definition.calls.filterMap Call.plainName?) := by
  rw [definition.calls_eq, callsOf, filterMap_filterMap, Tree.forestLabels_cons,
    Tree.forestLabels_nil, append_nil, Tree.labels, filterMap_map, calledNames,
    ← Tree.walkSubtrees_eq_breadthFirst]
  exact (Tree.walkSubtrees_perm _).filterMap _

theorem Definition.calledNames_eq_nil_iff (definition : Definition) :
    definition.stmt.outline.calledNames = [] ↔
      ∀ call ∈ definition.calls, call.plainName? = none := by
  rw [← perm_nil, definition.calledNames_perm.congr_left, perm_nil, filterMap_eq_nil_iff]

theorem map_snd_filter_definitions (outline : Outline) (name : String) :
    ((Analysis.definitions outline).filter (·.1 == name)).map Prod.snd =
      outline.breadthFirst.filter fun tree => functionName tree.label == some name := by
  rw [Analysis.definitions, Tree.walkSubtrees_eq_breadthFirst]
  induction outline.breadthFirst with
  | nil => rfl
  | cons tree rest ih =>
    cases named : functionName tree.label with
    | none => simpa [named] using ih
    | some other =>
      by_cases same : other = name
      · simpa [named, same] using ih
      · simpa [named, same] using ih

end ErpLens.Source

namespace ErpLens.Analysis

open Source

/-! ## What the table holds -/

theorem lookup_put {α : Type} (name other : String) (value : α) (table : List (String × α)) :
    (put name value table).lookup other =
      if other = name then some value else table.lookup other := by
  induction table with
  | nil => rw [put, lookup_cons_ite]
  | cons entry rest ih =>
    rcases entry with ⟨key, old⟩
    by_cases same : key = name
    · simp only [put, same, beq_self_eq_true, if_true, lookup_cons_ite]
      split <;> rfl
    · simp only [put, beq_false_of_ne same, Bool.false_eq_true, if_false, lookup_cons_ite, ih]
      by_cases isKey : other = key
      · rw [if_pos isKey, if_pos isKey, if_neg (isKey ▸ same)]
      · rw [if_neg isKey, if_neg isKey]

/-- Of several items that are put under the same name the last one stays. -/
theorem lookup_foldl_put {α β : Type} (key : β → String) (value : β → α) {items earlier : List β}
    {last : β} {name : String} (named : items.filter (key · == name) = earlier ++ [last])
    (table : List (String × α)) :
    (items.foldl (fun table item => put (key item) (value item) table) table).lookup name =
      some (value last) := by
  induction items using List.reverseRecOn with
  | nil => simp at named
  | append_singleton rest item ih =>
    rw [foldl_append, foldl_cons, foldl_nil, lookup_put]
    rw [filter_append] at named
    by_cases same : key item = name
    · rw [filter_cons_of_pos (by simpa using same), filter_nil] at named
      rw [if_pos same.symm, singleton_inj.mp (append_inj' named rfl).2]
    · rw [filter_cons_of_neg (by simpa using same), filter_nil, append_nil]
        at named
      rw [if_neg (Ne.symm same), ih named]

/-! ## What the records hold -/

theorem caller_of_mem_recordsOf {name : String} {outline : Outline} {record : CallRecord}
    (recorded : record ∈ recordsOf name outline) : record.caller = name := by
  rcases mem_filterMap.mp recorded with ⟨mark, _, recordEq⟩
  rw [callRecord_eq] at recordEq
  rcases Option.bind_eq_some_iff.mp recordEq with ⟨call, _, callEq⟩
  exact Call.recordFor_caller callEq

/-- The plain callees that records give for a caller. -/
def calleesFrom (name : String) (records : List CallRecord) : List String :=
  (records.filter fun record => record.caller == name && record.kind == .function).map (·.callee)

theorem calleesFrom_recordsOf (name other : String) (outline : Outline) :
    calleesFrom name (recordsOf other outline) =
      if other = name then outline.calledNames else [] := by
  have callers (record : CallRecord) (mem : record ∈ recordsOf other outline) :
      (record.caller == name && record.kind == .function) =
        (decide (other = name) && record.kind == .function) := by
    rw [caller_of_mem_recordsOf mem]
    rfl
  rw [calleesFrom, filter_congr callers]
  split
  · rename_i same
    simp [same, ← plainCallees_recordsOf name, plainCallees]
  · rename_i different
    simp [different]

theorem calleesFrom_callRecords (name : String) (outline : Outline) :
    calleesFrom name (callRecords outline) =
      ((definitions outline).filter (·.1 == name)).flatMap fun found => found.2.calledNames := by
  rw [callRecords]
  induction definitions outline with
  | nil => rfl
  | cons found rest ih =>
    have first := calleesFrom_recordsOf name found.1 found.2
    simp only [calleesFrom] at first ih ⊢
    rw [flatMap_cons, filter_append, map_append, ih, first, filter_cons]
    by_cases same : found.1 = name
    · simp [same]
    · simp [same]

/-! ## The two compared -/

/-- The definitions of a source in the order in which the call detection meets them. -/
theorem exists_definitions_eq (tree : Module) : ∃ ordered : List Definition,
    definitions tree.outline = ordered.map Definition.shown ∧ ordered.Perm tree.definitions := by
  have found : (definitions tree.outline).Perm (tree.definitions.map Definition.shown) :=
    tree.stands.definitions ▸ Outline.definitions_perm tree.outline
  exact (eq_map_comp_perm Definition.shown).ge _ _ found

/--
Whatever the detector has seen before: for a name that a source defines, the table holds the plain
names called in the last definition of it, in breadth-first order; last is meant in this order too.
These are the callees of all records of calls of plain names from that name exactly if no other
definition of it calls a plain name.
-/
theorem functionCalls_hold_last_definition (detector : CallDetector) {code : String}
    {tree : Module} (parsed : parse code = .ok tree) {name : String}
    (defined : ∃ definition ∈ tree.definitions, definition.name = name) :
    ∃ (records : List CallRecord) (others : List Definition) (last : Definition),
      (detector.detect code).2.key "relationships" = .ok (.list (records.map CallRecord.toValue)) ∧
      (others ++ [last]).Perm (tree.definitions.filter (·.name == name)) ∧
      (others ++ [last]).map (·.stmt.outline) =
        tree.outline.breadthFirst.filter (functionName ·.label == some name) ∧
      (detector.detect code).1.functionCalls.lookup name = some last.stmt.outline.calledNames ∧
      (last.stmt.outline.calledNames = calleesFrom name records ↔
        ∀ definition ∈ others, ∀ call ∈ definition.calls, call.plainName? = none) := by
  have outlined := outlineOf_of_parse parsed
  have reported : (detector.detect code).2 = callReport (some (callRecords tree.outline)) := by
    rw [CallDetector.detect, outlined]
  have tabled : (detector.detect code).1.functionCalls = functionCalls tree.outline := by
    rw [CallDetector.detect, outlined]
  rcases exists_definitions_eq tree with ⟨ordered, definitionsEq, perm⟩
  have namedPerm := perm.filter (·.name == name)
  have namedEq : (definitions tree.outline).filter (·.1 == name) =
      (ordered.filter (·.name == name)).map Definition.shown := by
    rw [definitionsEq, List.filter_map]
    rfl
  rcases List.eq_nil_or_concat' (ordered.filter (·.name == name)) with none | ⟨others, last, all⟩
  · rcases defined with ⟨definition, definitionMem, nameEq⟩
    have named := namedPerm.mem_iff.mpr (List.mem_filter.mpr ⟨definitionMem, by simpa using nameEq⟩)
    rw [none] at named
    cases named
  · rw [all] at namedEq namedPerm
    have callees : calleesFrom name (callRecords tree.outline) =
        others.flatMap (·.stmt.outline.calledNames) ++ last.stmt.outline.calledNames := by
      rw [calleesFrom_callRecords, namedEq, List.flatMap_map, List.flatMap_append,
        List.flatMap_singleton]
      rfl
    rw [reported, tabled]
    refine ⟨callRecords tree.outline, others, last, Value.key_ofFields rfl, namedPerm, ?_, ?_, ?_⟩
    · rw [← map_snd_filter_definitions, namedEq, List.map_map]
      rfl
    · rw [List.map_append, List.map_singleton] at namedEq
      have held := lookup_foldl_put Prod.fst
        (fun found : String × Outline => plainCallees (recordsOf found.1 found.2)) namedEq []
      rw [plainCallees_recordsOf] at held
      exact held
    · rw [callees, eq_comm, List.append_left_eq_self, List.flatMap_eq_nil_iff]
      simp only [Definition.calledNames_eq_nil_iff]

/-- The method is further down than the function of the same name, which comes after it. -/
def methodSource : String :=
  "class A:\n def f(self):\n  a(b())\n  self.f()\n  c()\ndef f():\n d()\n"

theorem functionCalls_hold_last_definition_of_methodSource :
    ∃ tree records, parse methodSource = .ok tree ∧
      (∃ definition ∈ tree.definitions, definition.name = "f") ∧
      (CallDetector.detect {} methodSource).2.key "relationships" =
        .ok (.list (records.map CallRecord.toValue)) ∧
      (CallDetector.detect {} methodSource).1.functionCalls.lookup "f" = some ["a", "c", "b"] ∧
      ["a", "c", "b"] ≠ calleesFrom "f" records := by
  have evaluated : ((parse methodSource).toOption.map fun tree =>
      (tree.definitions.map Definition.name,
        (tree.outline.breadthFirst.filter (functionName ·.label == some "f")).map
          Outline.calledNames)) =
      some (["f", "f"], [["d"], ["a", "c", "b"]]) := by
    decide +kernel
  rcases exists_ok_of_map_toOption evaluated with ⟨tree, parsed, evaluated⟩
  simp only [Prod.mk.injEq] at evaluated
  rcases evaluated with ⟨names, called⟩
  have defined : ∃ definition ∈ tree.definitions, definition.name = "f" :=
    List.mem_map.mp (names ▸ List.mem_cons_self)
  rcases functionCalls_hold_last_definition {} parsed defined with
    ⟨records, others, last, reported, _, found, held, agree⟩
  rw [← found, List.map_map, List.map_append] at called
  rcases List.append_inj' (called.trans (List.singleton_append).symm) rfl with
    ⟨othersCalled, lastCalled⟩
  have lastEq : last.stmt.outline.calledNames = ["a", "c", "b"] :=
    List.singleton_inj.mp lastCalled
  rw [lastEq] at held agree
  refine ⟨tree, records, parsed, defined, reported, held, fun same => ?_⟩
  have dropped : ["d"] ∈ others.map (Outline.calledNames ∘ (·.stmt.outline)) :=
    othersCalled ▸ List.mem_cons_self
  rcases List.mem_map.mp dropped with ⟨definition, definitionMem, calledEq⟩
  have silent := definition.calledNames_eq_nil_iff.mpr (agree.mp same definition definitionMem)
  exact List.cons_ne_nil _ _ (calledEq.symm.trans silent)

end ErpLens.Analysis
