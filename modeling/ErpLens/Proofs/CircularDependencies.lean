import ErpLens.Proofs.ProcessingOrder

/-!
# Circular dependencies of a template

A search of the graph of a template finds circles exactly if there are any. If several lines have a
code, the last one counts.
-/

namespace ErpLens.Accounts.Template

/-! ## Which code depends on which -/

/-- Whether a line says what a code depends on: it is calculated, has the code and names codes. -/
def Line.isEntryOf (available : List String) (code : String) (line : Line) : Bool :=
  line.isNamedCalculation && line.code == code && !(references line.formula available).isEmpty

/-- The line that says what a code depends on: the last one, if there are several. -/
def entryLine? (lines : List Line) (code : String) : Option Line :=
  (lines.filter (Line.isEntryOf (codes lines) code)).getLast?

/-- A code depends on another one: the formula of its line names it. -/
def CodeDependsOn (lines : List Line) (code other : String) : Prop :=
  ∃ line, entryLine? lines code = some line ∧ other ∈ references line.formula (codes lines)

namespace Graph

theorem lookup_addLine (available : List String) (graph : Graph) (line : Line) (code : String) :
    (graph.addLine available line).lookup code =
      if line.isEntryOf available code then some (references line.formula available)
      else graph.lookup code := by
  by_cases named : line.isNamedCalculation = true
  · rw [addLine, if_pos named]
    split
    · rename_i noReferences
      simp [Line.isEntryOf, noReferences]
    · rename_i someReferences
      have nonempty : (references line.formula available).isEmpty = false := by
        simpa using someReferences
      rw [lookup_put]
      simp [Line.isEntryOf, named, nonempty, eq_comm (a := code)]
  · simp [addLine, Line.isEntryOf, named]

theorem lookup_foldl_addLine (available : List String) (lines : List Line) (code : String) :
    (lines.foldl (addLine available) []).lookup code =
      ((lines.filter (Line.isEntryOf available code)).getLast?).map
        fun line => references line.formula available := by
  induction lines using List.reverseRecOn with
  | nil => rfl
  | append_singleton before line ih =>
    rw [List.foldl_concat, lookup_addLine, List.filter_append]
    by_cases isEntry : line.isEntryOf available code = true
    · simp [isEntry]
    · simp [isEntry, ih]

/-- A graph lists the dependencies of lines, with its codes and their dependencies in any order. -/
def Lists (graph : Graph) (lines : List Line) : Prop :=
  ∀ code other, graph.Edge code other ↔ CodeDependsOn lines code other

theorem Lists.edge_eq {graph : Graph} {lines : List Line} (lists : graph.Lists lines) :
    graph.Edge = CodeDependsOn lines := by
  funext code other
  exact propext (lists code other)

theorem lists_dependencies (lines : List Line) : (dependencies lines).Lists lines := by
  intro code other
  rw [Edge, next, dependencies_eq_foldl, lookup_foldl_addLine, CodeDependsOn, entryLine?]
  cases (lines.filter (Line.isEntryOf (codes lines) code)).getLast? with
  | none => simp
  | some line => simp

end Graph

/-! ## What the check reports -/

/--
The check of a template for circular dependencies always has a result, whatever the order in which
its dependencies are listed: the search never misses a code on its path, and does not change if it
may go deeper. There are errors exactly if some code depends on itself, directly or through others,
and each error spells a way along the dependencies that comes back to where it started.
-/
theorem checkResolvedCircles_finds_circles {template rowList : Value} {rows : List Value}
    (hasRows : template.field "rows" = .ok rowList) (listed : rowList.items = .ok rows)
    (complete : ∀ row ∈ rows, HasLineFields row) :
    (∃ validator graph, resolve template = .ok validator ∧
      validator.field "dependencies" = .ok (Graph.toValue graph) ∧
      graph.Lists (rows.map Line.ofRow)) ∧
    ∀ (graph : Graph) (validator : Value), graph.Lists (rows.map Line.ofRow) →
      validator.field "dependencies" = .ok graph.toValue →
      ∃ found, (∀ depth, graph.length < depth → graph.searchWithin depth = .ok found) ∧
        checkResolvedCircles validator = .ok found.verdict ∧
        (found.verdict.errors ≠ [] ↔
          ∃ code, Relation.TransGen (CodeDependsOn (rows.map Line.ofRow)) code code) ∧
        ∀ issue ∈ found.verdict.errors, ∃ way,
          IsClosedPath (CodeDependsOn (rows.map Line.ofRow)) way ∧
          issue.message = "Circular dependency detected: " ++ " → ".intercalate way := by
  constructor
  · exact ⟨_, _, resolve_eq hasRows listed complete, rfl, Graph.lists_dependencies _⟩
  · intro graph validator lists held
    rcases graph.exists_search with ⟨found, searched, circlesEq, -⟩
    have verdictEq : found.verdict = checkCircles graph := by
      rw [Search.verdict, circlesEq, checkCircles]
    rw [← lists.edge_eq]
    refine ⟨found, ?_, ?_, ?_, ?_⟩
    · intro depth room
      rw [Graph.searchWithin_eq_search room, searched]
    · rw [verdictEq]
      exact checkResolvedCircles_eq held
    · rw [verdictEq, ← Graph.circles_ne_nil_iff]
      simp [checkCircles]
    · intro issue issueMem
      rw [verdictEq] at issueMem
      rcases List.mem_map.mp issueMem with ⟨circle, circleMem, rfl⟩
      exact ⟨circle, Graph.isClosedPath_of_mem_circles circleMem, rfl⟩

/-- Two lines that name each other, and one that names itself. -/
def circularRows : List Value :=
  [sampleRow "_" "Calculated Amount" "__", sampleRow "__" "Calculated Amount" "_",
    sampleRow "___" "Calculated Amount" "___"]

def circularGraph : Graph := [("___", ["___"]), ("__", ["_"]), ("_", ["__"])]

theorem lists_circularGraph : circularGraph.Lists (circularRows.map Line.ofRow) := by
  have computed : dependencies (circularRows.map Line.ofRow) =
      [("_", ["__"]), ("__", ["_"]), ("___", ["___"])] := by
    decide +kernel
  intro code other
  rw [← Graph.lists_dependencies, computed]
  simp only [Graph.Edge, Graph.next, circularGraph, lookup_cons_ite]
  by_cases first : code = "_"
  · simp [first]
  · by_cases second : code = "__"
    · simp [second]
    · simp [first, second]

theorem checkResolvedCircles_finds_circles_of_circularRows :
    (∀ row ∈ circularRows, HasLineFields row) ∧ circularGraph.Lists (circularRows.map Line.ofRow) ∧
      ∃ found : Search, checkResolvedCircles
          (.object "DependencyValidator" [("dependencies", circularGraph.toValue)]) =
            .ok found.verdict ∧
        found.verdict.errors.map Issue.message =
          ["Circular dependency detected: ___ → ___", "Circular dependency detected: __ → _ → __"] ∧
        ∃ code, Relation.TransGen (CodeDependsOn (circularRows.map Line.ofRow)) code code := by
  have complete : ∀ row ∈ circularRows, HasLineFields row := by decide +kernel
  have computed : (circularGraph.search.toOption.map fun found =>
      found.verdict.errors.map Issue.message) =
        some ["Circular dependency detected: ___ → ___",
          "Circular dependency detected: __ → _ → __"] := by
    decide +kernel
  have finds := @checkResolvedCircles_finds_circles
    (.object "Template" [("rows", .list circularRows)]) _ _ rfl rfl complete
  rcases finds.2 circularGraph
    (.object "DependencyValidator" [("dependencies", circularGraph.toValue)])
    lists_circularGraph rfl with ⟨found, searched, checked, circular, -⟩
  have messages : found.verdict.errors.map Issue.message =
      ["Circular dependency detected: ___ → ___", "Circular dependency detected: __ → _ → __"] := by
    rw [Graph.search, searched _ (Nat.lt_succ_self _)] at computed
    exact Option.some.inj computed
  refine ⟨complete, lists_circularGraph, found, checked, messages, circular.mp ?_⟩
  rintro none
  simp [none] at messages

end ErpLens.Accounts.Template
