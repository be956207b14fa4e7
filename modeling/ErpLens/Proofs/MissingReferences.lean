import ErpLens.Proofs.CircularDependencies

/-!
# References to lines that are not there

The codes that a formula names are looked for among the codes of the template, so the check of
dependencies finds none that is missing.
-/

open List

namespace ErpLens.Accounts.Template

/-! ## What is found in formulas -/

theorem mem_of_mem_references {formula name : String} {available : List String}
    (found : name ∈ references formula available) : name ∈ available :=
  mem_of_mem_filter found

namespace Graph

/-- All that codes depend on is among some codes. -/
def Within (available : List String) (graph : Graph) : Prop :=
  ∀ entry ∈ graph, ∀ target ∈ entry.2, target ∈ available

theorem mem_put {graph : Graph} {code : String} {targets : List String}
    {entry : String × List String} (isEntry : entry ∈ graph.put code targets) :
    entry ∈ graph ∨ entry.2 = targets := by
  induction graph with
  | nil =>
    simp only [put, mem_singleton] at isEntry
    simp [isEntry]
  | cons first rest ih =>
    rcases first with ⟨key, old⟩
    rw [put] at isEntry
    split at isEntry
    · rcases mem_cons.mp isEntry with rfl | inRest
      · exact .inr rfl
      · exact .inl (mem_cons_of_mem _ inRest)
    · rcases mem_cons.mp isEntry with rfl | later
      · exact .inl mem_cons_self
      · exact (ih later).imp_left (mem_cons_of_mem _)

theorem Within.addLine {available : List String} {graph : Graph} (within : graph.Within available)
    (line : Line) : (graph.addLine available line).Within available := by
  unfold Graph.addLine
  split
  · split
    · exact within
    · intro entry isEntry target targetMem
      rcases mem_put isEntry with inGraph | found
      · exact within entry inGraph target targetMem
      · rw [found] at targetMem
        exact mem_of_mem_references targetMem
  · exact within

theorem Within.foldl_addLine {available : List String} {graph : Graph}
    (within : graph.Within available) (lines : List Line) :
    (lines.foldl (Graph.addLine available) graph).Within available := by
  induction lines generalizing graph with
  | nil => exact within
  | cons line rest ih => exact ih (within.addLine line)

theorem within_dependencies (lines : List Line) :
    (dependencies lines).Within (codes lines) := by
  rw [dependencies_eq_foldl]
  apply Within.foldl_addLine
  simp [Within]

end Graph

/-! ## What is reported -/

/-- The codes that no line has. -/
def undefinedAmong (lines : List Line) (targets : List String) : List String :=
  targets.filter fun target => !(codes lines).contains target

theorem checkMissing_eq_of_within {lines : List Line} {graph : Graph}
    (within : graph.Within (codes lines)) : checkMissing lines graph = {} := by
  have noErrors : (checkMissing lines graph).errors = [] := by
    apply filterMap_eq_nil_iff.mpr
    intro entry isEntry
    have noneUndefined : undefinedAmong lines entry.2 = [] := by
      apply filter_eq_nil_iff.mpr
      intro target targetMem
      simpa using within entry isEntry target targetMem
    rw [undefinedAmong] at noneUndefined
    simp only [noneUndefined]
  rw [checkMissing] at noErrors ⊢
  simpa using noErrors

theorem exists_mem_errors_checkMissing {lines : List Line} {graph : Graph} {code : String}
    {targets : List String} (isEntry : (code, targets) ∈ graph)
    (undefined : undefinedAmong lines targets ≠ []) :
    ∃ issue ∈ (checkMissing lines graph).errors, issue.line = lineNumber lines code ∧
      issue.message = "Line References undefined in Formula: " ++
        ", ".intercalate (undefinedAmong lines targets) := by
  rcases exists_cons_of_ne_nil undefined with ⟨first, rest, split⟩
  refine ⟨⟨_, lineNumber lines code, .null⟩, mem_filterMap.mpr ⟨_, isEntry, ?_⟩, rfl, rfl⟩
  rw [split]
  rw [undefinedAmong] at split
  simp only [split]

theorem checkResolved_eq {validator template : Value} {lines : List Line} {graph : Graph}
    (hasTemplate : validator.field "template" = .ok template)
    (hasLines : linesOf template = .ok lines)
    (hasGraph : validator.field "dependencies" = .ok graph.toValue) :
    checkResolved validator = .ok ((checkCircles graph).merge (checkMissing lines graph)) := by
  rcases graph.exists_search with ⟨searched, ran, circlesEq, -⟩
  rw [checkResolved, hasGraph, ok_bind, Graph.ofValue_toValue, ok_bind, hasTemplate, ok_bind,
    hasLines, ok_bind, checkDependencies, ran, ok_bind, Search.verdict, circlesEq]
  rfl

theorem merge_nothing (verdict : Verdict Issue) : verdict.merge {} = verdict := by
  simp [Verdict.merge]

/-! ## Names in formulas -/

/-- The names that formulas may use besides codes. -/
def mathFunctions : List String :=
  ["abs", "round", "min", "max", "sum", "sqrt", "pow", "ceil", "floor"]

/-- The names that a formula mentions: words that do not start with a digit. Only ASCII counts. -/
def namesIn (formula : String) : List String :=
  ((formula.toList.splitOnP fun c => !(c.isAlphanum || c == '_')).filter fun word =>
    word.head?.any fun first => !first.isDigit).map String.ofList

/-- The names in a formula that stand for nothing. -/
def Line.undefinedNames (lines : List Line) (line : Line) : List String :=
  (namesIn line.formula).filter fun name =>
    !(codes lines).contains name && !mathFunctions.contains name

/--
A check of dependencies that are given reports for each code those that no line has, with the number
of its line. But the dependencies of a template never have any, since only its codes are looked for
in formulas. So the check of a template gives what the search for circles gives, whatever else its
formulas mention: there are errors exactly if some code depends on itself, and they are errors of no
line.
-/
theorem checkResolved_reports_circles_only {template rowList : Value} {rows : List Value}
    (hasRows : template.field "rows" = .ok rowList) (listed : rowList.items = .ok rows)
    (complete : ∀ row ∈ rows, HasLineFields row) :
    (∀ (graph : Graph) (validator : Value), validator.field "template" = .ok template →
      validator.field "dependencies" = .ok graph.toValue →
      ∃ verdict, checkResolved validator = .ok verdict ∧
        ∀ entry ∈ graph, undefinedAmong (rows.map Line.ofRow) entry.2 ≠ [] →
          ∃ issue ∈ verdict.errors, issue.line = lineNumber (rows.map Line.ofRow) entry.1 ∧
            issue.message = "Line References undefined in Formula: " ++
              ", ".intercalate (undefinedAmong (rows.map Line.ofRow) entry.2)) ∧
    (∀ (formula : String) (available : List String),
      ∀ name ∈ references formula available, name ∈ available) ∧
    ∃ validator verdict, resolve template = .ok validator ∧
      checkResolved validator = .ok verdict ∧ checkResolvedCircles validator = .ok verdict ∧
      (verdict.errors ≠ [] ↔
        ∃ code, Relation.TransGen (CodeDependsOn (rows.map Line.ofRow)) code code) ∧
      ∀ issue ∈ verdict.errors, issue.line = .null ∧ ∃ way,
        IsClosedPath (CodeDependsOn (rows.map Line.ofRow)) way ∧
        issue.message = "Circular dependency detected: " ++ " → ".intercalate way := by
  have hasLines := linesOf_eq hasRows listed complete
  refine ⟨?_, fun _ _ _ => mem_of_mem_references, ?_⟩
  · intro graph validator hasTemplate hasGraph
    refine ⟨_, checkResolved_eq hasTemplate hasLines hasGraph, ?_⟩
    intro entry isEntry undefined
    rcases exists_mem_errors_checkMissing isEntry undefined with ⟨issue, issueMem, described⟩
    exact ⟨issue, List.mem_append_right _ issueMem, described⟩
  · have lists := Graph.lists_dependencies (rows.map Line.ofRow)
    refine ⟨_, _, resolve_eq hasRows listed complete, checkResolved_eq rfl hasLines rfl, ?_⟩
    rw [checkMissing_eq_of_within (Graph.within_dependencies _), merge_nothing, ← lists.edge_eq]
    refine ⟨checkResolvedCircles_eq rfl, ?_, ?_⟩
    · rw [← Graph.circles_ne_nil_iff]
      simp [checkCircles]
    · intro issue issueMem
      rcases List.mem_map.mp issueMem with ⟨circle, circleMem, rfl⟩
      exact ⟨rfl, circle, Graph.isClosedPath_of_mem_circles circleMem, rfl⟩

def numberedRow (number : Int) (code formula : String) : Value :=
  .ofRecord [("idx", .int number), ("reference_code", .str code),
    ("data_source", .str "Calculated Amount"), ("calculation_formula", .str formula)]

/-- A line that depends on itself, and one whose formula names a line that is not there. -/
def brokenRows : List Value :=
  [numberedRow 1 "_" "_", numberedRow 2 "A" "B + 1"]

theorem checkResolved_reports_circles_only_of_brokenRows :
    (brokenRows.map fun row => (Line.ofRow row).undefinedNames (brokenRows.map Line.ofRow)) =
        [[], ["B"]] ∧
      (∃ verdict, checkResolved (.object "DependencyValidator"
          [("template", .object "Template" [("rows", .list brokenRows)]),
            ("dependencies", Graph.toValue [("A", ["B"])])]) = .ok verdict ∧
        ∃ issue ∈ verdict.errors, issue.line = .int 2 ∧
          issue.message = "Line References undefined in Formula: B") ∧
      ∃ validator verdict,
        resolve (.object "Template" [("rows", .list brokenRows)]) = .ok validator ∧
        checkResolved validator = .ok verdict ∧ verdict.errors ≠ [] ∧
        ∀ issue ∈ verdict.errors, issue.line = .null := by
  have complete : ∀ row ∈ brokenRows, HasLineFields row := by decide +kernel
  rcases @checkResolved_reports_circles_only
    (.object "Template" [("rows", .list brokenRows)]) _ _ rfl rfl complete with
    ⟨given, -, validator, verdict, resolved, checked, -, circular, ofNoLine⟩
  refine ⟨by decide +kernel, ?_, validator, verdict, resolved, checked, circular.mpr ?_,
    fun issue issueMem => (ofNoLine issue issueMem).1⟩
  · rcases given [("A", ["B"])] (.object "DependencyValidator"
      [("template", .object "Template" [("rows", .list brokenRows)]),
        ("dependencies", Graph.toValue [("A", ["B"])])]) rfl rfl with ⟨verdict, checked, reported⟩
    have undefined : undefinedAmong (brokenRows.map Line.ofRow) ["B"] = ["B"] := by
      decide +kernel
    have number : lineNumber (brokenRows.map Line.ofRow) "A" = .int 2 := by
      simp [lineNumber, brokenRows, numberedRow, Line.ofRow, Line.textField, Value.field?,
        Value.ofRecord, Value.findEntry, Value.same_str]
    rcases reported _ List.mem_cons_self (by simp [undefined]) with ⟨issue, issueMem, line, message⟩
    refine ⟨verdict, checked, issue, issueMem, line.trans number, ?_⟩
    rw [message, undefined]
    rfl
  · have named : "_" ∈ (dependencies (brokenRows.map Line.ofRow)).next "_" := by decide +kernel
    exact ⟨"_", .single ((Graph.lists_dependencies _ _ _).mp named)⟩

/-- A line whose formula names a line that is not there is not reported. -/
theorem undefined_name_is_not_reported :
    (Line.ofRow (numberedRow 1 "A" "B + 1")).undefinedNames
        [Line.ofRow (numberedRow 1 "A" "B + 1")] = ["B"] ∧
      ∃ validator, resolve (.object "Template" [("rows", .list [numberedRow 1 "A" "B + 1"])]) =
          .ok validator ∧
        checkResolved validator = .ok {} := by
  have complete : ∀ row ∈ [numberedRow 1 "A" "B + 1"], HasLineFields row := by decide +kernel
  have noDependencies : dependencies [Line.ofRow (numberedRow 1 "A" "B + 1")] = [] := by
    decide +kernel
  refine ⟨by decide +kernel, _, resolve_eq rfl rfl complete, ?_⟩
  rw [checkResolved_eq rfl (linesOf_eq rfl rfl complete) rfl]
  simp only [List.map_cons, List.map_nil, noDependencies]
  rfl

end ErpLens.Accounts.Template
