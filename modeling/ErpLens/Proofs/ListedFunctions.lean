import ErpLens.Proofs.CallRecords
import ErpLens.Proofs.EntityListing

/-!
# Which callers are listed as functions

To the call detection a function is any definition; to the listing it is a plain one. So a caller
that is not listed is a name that only asynchronous definitions have.
-/

open List

namespace ErpLens.Analysis

open Source

/-! ## The table of the call detection -/

theorem mem_keys_put {α : Type} (name : String) (value : α) (table : List (String × α))
    (key : String) :
    key ∈ (put name value table).map Prod.fst ↔ key = name ∨ key ∈ table.map Prod.fst := by
  induction table with
  | nil => simp [put]
  | cons entry rest ih =>
    rcases entry with ⟨other, old⟩
    by_cases same : other = name
    · simp [put, same]
    · simp [put, same, ih, or_left_comm]

theorem mem_keys_foldl_put {α β : Type} (name : β → String) (value : β → α) (items : List β)
    (table : List (String × α)) (key : String) :
    key ∈ (items.foldl (fun table item => put (name item) (value item) table) table).map Prod.fst ↔
      key ∈ table.map Prod.fst ∨ key ∈ items.map name := by
  induction items generalizing table with
  | nil => simp
  | cons item rest ih =>
    rw [foldl_cons, ih, mem_keys_put, map_cons, mem_cons]
    tauto

theorem mem_keys_functionCalls (outline : Outline) (key : String) :
    key ∈ (functionCalls outline).map Prod.fst ↔ key ∈ (definitions outline).map Prod.fst := by
  have filled := mem_keys_foldl_put Prod.fst
    (fun definition : String × Outline => plainCallees (recordsOf definition.1 definition.2))
    (definitions outline) [] key
  simp only [map_nil, not_mem_nil, false_or] at filled
  exact filled

/-! ## The listing of functions -/

/-- The name of a node that is a plain function. -/
def plainName : Mark → Option String
  | .function head _ => if head.isAsync then none else some head.name
  | _ => none

/-- The names of the functions among entities. -/
def functionNames (found : List Entity) : List String :=
  (found.filterMap Entity.function?).map FunctionEntity.name

theorem functionNames_append (left right : List Entity) :
    functionNames (left ++ right) = functionNames left ++ functionNames right := by
  rw [functionNames, filterMap_append, map_append, functionNames, functionNames]

theorem functionNames_of_markEntities {mark : Mark} {found : List Entity}
    (listed : markEntities mark = .ok found) : functionNames found = (plainName mark).toList := by
  cases mark with
  | function head document =>
    rcases markEntities_function_cases listed with ⟨async, rfl⟩ | ⟨decorators, plain, _, rfl⟩
    · simp [functionNames, plainName, async]
    · simp [functionNames, plainName, plain, Entity.function?]
  | classDef head methods document =>
    rcases bind_eq_ok.mp listed with ⟨bases, _, foundEq⟩
    simp only [pure, Except.pure, Except.ok.injEq] at foundEq
    simp [← foundEq, functionNames, plainName, Entity.function?]
  | _ =>
    simp only [markEntities, pure, Except.pure, Except.ok.injEq] at listed
    simp [← listed, functionNames, plainName, Entity.function?]

theorem exists_functionNames_collect (marks : List Mark) :
    ∃ missed, marks.filterMap plainName = functionNames (collect marks).1 ++ missed ∧
      ((collect marks).2 = none → missed = []) := by
  induction marks with
  | nil => exact ⟨[], rfl, fun _ => rfl⟩
  | cons mark rest ih =>
    rcases ih with ⟨missed, namesEq, complete⟩
    rw [filterMap_eq_flatMap_toList, flatMap_cons, ← filterMap_eq_flatMap_toList, collect]
    cases listed : markEntities mark with
    | error fault => exact ⟨_, rfl, fun finished => by simp at finished⟩
    | ok found =>
      refine ⟨missed, ?_, complete⟩
      rw [namesEq, functionNames_append, functionNames_of_markEntities listed, append_assoc]

end ErpLens.Analysis

namespace ErpLens.Source

open Analysis Outline

/-! ## Back to the syntax tree -/

/-- The names of the plain functions of a source. -/
def Module.plainNames (tree : Module) : List String :=
  (tree.definitions.filter fun definition => !definition.head.isAsync).map Definition.name

theorem Module.mem_plainNames {tree : Module} {name : String} :
    name ∈ tree.plainNames ↔
      ∃ definition ∈ tree.definitions, definition.name = name ∧
        definition.head.isAsync = false := by
  simp only [Module.plainNames, mem_map, mem_filter, Bool.not_eq_true']
  tauto

theorem Module.definitions_names_perm (tree : Module) :
    ((Analysis.definitions tree.outline).map Prod.fst).Perm
      (tree.definitions.map Definition.name) := by
  have namesEq : (forestDefinitions [tree.outline]).map Prod.fst =
      tree.definitions.map Definition.name := by
    rw [tree.stands.definitions, map_map]
    rfl
  rw [← namesEq]
  exact (definitions_perm tree.outline).map Prod.fst

theorem Module.plainNames_perm (tree : Module) :
    (tree.outline.walk.filterMap plainName).Perm tree.plainNames := by
  -- A node with a plain name is a definition, so the preorder of definitions has all of them.
  have named (outline : Outline) : plainName outline.label =
      (definition? outline).bind fun shown => plainName shown.2.label := by
    rcases outline with ⟨mark, children⟩
    cases mark <;> rfl
  have preorder : tree.outline.labels.filterMap plainName =
      (forestDefinitions [tree.outline]).filterMap fun shown => plainName shown.2.label := by
    simp only [Tree.labels, filterMap_map, forestDefinitions, Tree.forestSubtrees,
      append_nil, filterMap_filterMap, ← named]
    rfl
  have plainEq (definition : Definition) : plainName definition.shown.2.label =
      if !definition.head.isAsync then some definition.name else none := by
    simp only [Definition.shown, Definition.stmt, Stmt.outline, Tree.label_node, plainName]
    cases definition.head.isAsync <;> rfl
  have namesEq : tree.outline.labels.filterMap plainName = tree.plainNames := by
    rw [preorder, tree.stands.definitions, filterMap_map, Module.plainNames,
      ← filterMap_eq_map, filterMap_filter]
    simp [plainEq]
  rw [← namesEq]
  exact (Tree.walk_perm tree.outline).filterMap plainName

end ErpLens.Source

namespace ErpLens.Analysis

open Source

/-- The names of the functions that are listed. -/
def Extraction.functionNames (extraction : Extraction) : List String :=
  extraction.extractor.entities.functions.map FunctionEntity.name

theorem exists_functionNames_extractSource (path : String) {code : String} {tree : Module}
    (parsed : parse code = .ok tree) :
    ∃ missed, ((extractSource path code).functionNames ++ missed).Perm tree.plainNames ∧
      (tree.Shown → missed = []) := by
  rcases exists_functionNames_collect tree.outline.walk with ⟨missed, namesEq, complete⟩
  have listedEq : (extractSource path code).functionNames =
      functionNames (collect tree.outline.walk).1 := by
    simp only [Extraction.functionNames, extractSource, outlineOf_of_parse parsed, entitiesOf,
      functionNames]
  refine ⟨missed, ?_, fun shown => complete (tree.shown_iff.mp shown)⟩
  rw [listedEq, ← namesEq]
  exact tree.plainNames_perm

/--
The table of the call detection has an entry for exactly the names of definitions, plain or
asynchronous, and every caller in the report is one of them. The names listed as functions are those
of plain definitions only, all of them if the listing comes to its end, which it does exactly if the
source can be shown. So a caller or a name of the table is then missing from the listing exactly if
all its definitions are asynchronous.
-/
theorem listing_misses_async_callers (detector : CallDetector) (path : String) {code : String}
    {tree : Module} (parsed : parse code = .ok tree) :
    ∃ (records : List CallRecord) (missed : List String),
      (detector.detect code).2.key "relationships" = .ok (.list (records.map CallRecord.toValue)) ∧
      (∀ record ∈ records, record.caller ∈ (detector.detect code).1.functionCalls.map Prod.fst) ∧
      (∀ name, name ∈ (detector.detect code).1.functionCalls.map Prod.fst ↔
        ∃ definition ∈ tree.definitions, definition.name = name) ∧
      ((extractSource path code).functionNames ++ missed).Perm tree.plainNames ∧
      ((extractSource path code).fault = none ↔ tree.Shown) ∧
      (tree.Shown → missed = [] ∧
        ∀ name, name ∉ (extractSource path code).functionNames ↔
          ∀ definition ∈ tree.definitions, definition.name = name →
            definition.head.isAsync = true) := by
  have outlined := outlineOf_of_parse parsed
  have reported : (detector.detect code).2 = callReport (some (callRecords tree.outline)) := by
    rw [CallDetector.detect, outlined]
  have tabled : (detector.detect code).1.functionCalls = functionCalls tree.outline := by
    rw [CallDetector.detect, outlined]
  have keys (name : String) : name ∈ (functionCalls tree.outline).map Prod.fst ↔
      ∃ definition ∈ tree.definitions, definition.name = name := by
    rw [mem_keys_functionCalls, tree.definitions_names_perm.mem_iff, List.mem_map]
  rcases exists_functionNames_extractSource path parsed with ⟨missed, listed, complete⟩
  rw [reported, tabled]
  refine ⟨callRecords tree.outline, missed, Value.key_ofFields rfl, ?_, keys, listed,
    fault_extractSource_eq_none_iff path parsed, fun shown => ⟨complete shown, fun name => ?_⟩⟩
  · intro record recordMem
    have byDefinition := tree.callRecords_perm_definitions.mem_iff.mp recordMem
    rcases List.mem_flatMap.mp byDefinition with ⟨definition, definitionMem, recorded⟩
    rcases List.mem_filterMap.mp recorded with ⟨call, _, recordEq⟩
    exact (keys _).mpr ⟨definition, definitionMem, (Call.recordFor_caller recordEq).symm⟩
  · rw [complete shown, List.append_nil] at listed
    rw [listed.mem_iff, Module.mem_plainNames]
    simp

/-- A name with definitions of both forms, and a plain function in an asynchronous one. -/
def mixedSource : String :=
  "def f():\n a()\nasync def f():\n b()\nasync def g():\n def h(): c()\n f()\n"

theorem listing_misses_async_callers_mixed :
    ∃ tree, parse mixedSource = .ok tree ∧ tree.Shown ∧
      "g" ∈ (CallDetector.detect {} mixedSource).1.functionCalls.map Prod.fst ∧
      "g" ∉ (extractSource "a.py" mixedSource).functionNames ∧
      "f" ∈ (extractSource "a.py" mixedSource).functionNames ∧
      "h" ∈ (extractSource "a.py" mixedSource).functionNames := by
  have evaluated : ((parse mixedSource).toOption.map fun tree =>
      ((entitiesOf tree.outline).2.isNone,
        tree.definitions.map fun definition => (definition.name, definition.head.isAsync))) =
      some (true, [("f", false), ("f", true), ("g", true), ("h", false)]) := by
    decide +kernel
  rcases exists_ok_of_map_toOption evaluated with ⟨tree, parsed, evaluated⟩
  simp only [Prod.mk.injEq, Option.isNone_iff_eq_none] at evaluated
  rcases evaluated with ⟨finished, definitionsEq⟩
  have shown := tree.shown_iff.mpr finished
  have defined (name : String) (async : Bool) :
      (∃ definition ∈ tree.definitions, definition.name = name ∧
        definition.head.isAsync = async) ↔
        (name, async) ∈ [("f", false), ("f", true), ("g", true), ("h", false)] := by
    simp [← definitionsEq]
  rcases listing_misses_async_callers {} "a.py" parsed with ⟨_, _, _, _, keys, _, _, listed⟩
  have missing := (listed shown).2
  have plainListed (name : String)
      (plain : (name, false) ∈ [("f", false), ("f", true), ("g", true), ("h", false)]) :
      name ∈ (extractSource "a.py" mixedSource).functionNames := by
    rcases (defined name false).mpr plain with ⟨definition, definitionMem, nameEq, notAsync⟩
    by_contra notListed
    have async := (missing name).mp notListed definition definitionMem nameEq
    rw [notAsync] at async
    exact Bool.false_ne_true async
  refine ⟨tree, parsed, shown, ?_, ?_, plainListed "f" (by decide), plainListed "h" (by decide)⟩
  · rcases (defined "g" true).mpr (by decide) with ⟨definition, definitionMem, nameEq, _⟩
    exact (keys "g").mpr ⟨definition, definitionMem, nameEq⟩
  · refine (missing "g").mpr fun definition definitionMem nameEq => ?_
    by_contra notAsync
    have impossible := (defined "g" false).mp
      ⟨definition, definitionMem, nameEq, Bool.eq_false_of_not_eq_true notAsync⟩
    revert impossible
    decide

def asyncSource : String :=
  "async def f():\n    g()\n"

/-- The caller of the only recorded call is not listed. -/
theorem async_caller_is_not_listed :
    (CallDetector.detect {} asyncSource).1.records = [⟨"f", "g", 2, .function⟩] ∧
      (CallDetector.detect {} asyncSource).1.functionCalls = [("f", ["g"])] ∧
      (extractSource "input.py" asyncSource).fault = none ∧
      (extractSource "input.py" asyncSource).functionNames = [] := by
  have finished : (extractSource "input.py" asyncSource).fault.isNone = true ∧
      (extractSource "input.py" asyncSource).functionNames = [] := by
    decide +kernel
  have detected : (CallDetector.detect {} asyncSource).1.records = [⟨"f", "g", 2, .function⟩] ∧
      (CallDetector.detect {} asyncSource).1.functionCalls = [("f", ["g"])] := by
    decide +kernel
  exact ⟨detected.1, detected.2, Option.isNone_iff_eq_none.mp finished.1, finished.2⟩

end ErpLens.Analysis
