import ErpLens.Proofs.LineOrder

/-!
# The order of the rows of a template

Rows that have the fields of a line are read without fault, and a graph that is written as a value
is read back unchanged; so what is proved of lines holds of rows.
-/

open List

namespace ErpLens.Accounts.Template

/-! ## Graphs as values -/

theorem Graph.ofValue_toValue (graph : Graph) : Graph.ofValue graph.toValue = .ok graph := by
  have reads : ∀ entry ∈ graph, (do
      return (Value.text (.str entry.1), (← (Value.strs entry.2).items).map Value.text)) =
        (.ok (id entry) : Outcome (String × List String)) := by
    intro entry _
    have texts : (entry.2.map Value.str).map Value.text = entry.2 := by
      rw [map_map]
      exact map_id _
    rw [Value.strs, Value.items, ok_bind, texts]
    rfl
  rw [toValue, Value.ofFields, ofValue, map_map, mapM_map]
  exact (mapM_eq_ok reads).trans (by rw [map_id])

theorem checkResolvedCircles_eq {resolver : Value} {graph : Graph}
    (found : resolver.field "dependencies" = .ok graph.toValue) :
    checkResolvedCircles resolver = .ok (checkCircles graph) := by
  rcases graph.exists_search with ⟨searched, ran, circlesEq, -⟩
  rw [checkResolvedCircles, found, ok_bind, Graph.ofValue_toValue, ok_bind, ran, ok_bind,
    Search.verdict, circlesEq]
  rfl

/-! ## Rows as values -/

/-- A row has the fields of a line. -/
def HasLineFields (row : Value) : Prop :=
  ∀ name ∈ ["reference_code", "data_source", "calculation_formula"], (row.field? name).isSome

instance (row : Value) : Decidable (HasLineFields row) :=
  inferInstanceAs (Decidable (∀ name ∈ _, _))

theorem HasLineFields.field {row : Value} (complete : HasLineFields row) (name : String)
    (name_mem : name ∈ ["reference_code", "data_source", "calculation_formula"]) :
    row.field name = .ok ((row.field? name).getD .null) := by
  obtain ⟨value, found⟩ := Option.isSome_iff_exists.mp (complete name name_mem)
  rw [Value.field, found, Option.getD_some]

section

variable {template rowList : Value} {rows : List Value}
  (hasRows : template.field "rows" = .ok rowList) (listed : rowList.items = .ok rows)
  (complete : ∀ row ∈ rows, HasLineFields row)

include hasRows listed complete

theorem linesOf_eq : linesOf template = .ok (rows.map Line.ofRow) := by
  rw [linesOf, hasRows, ok_bind, listed, ok_bind]
  refine mapM_eq_ok fun row row_mem => ?_
  have fields := complete row row_mem
  simp only [fields.field "reference_code" (by simp), fields.field "data_source" (by simp),
    fields.field "calculation_formula" (by simp), ok_bind]
  split
  · split <;> rfl
  · rfl

theorem resolve_eq : resolve template =
    .ok (.object "DependencyValidator" [("template", template),
      ("dependencies", (dependencies (rows.map Line.ofRow)).toValue)]) := by
  rw [resolve, linesOf_eq hasRows listed complete]
  rfl

end

/-- A row that is calculated. -/
def isCalculatedRow (row : Value) : Bool :=
  (row.field? "data_source").getD .null == .str "Calculated Amount"

theorem isCalculatedRow_of_origin {row : Value}
    (calculated : (Line.ofRow row).origin = .calculated) : isCalculatedRow row = true := by
  simp only [Line.ofRow, Origin.ofValue] at calculated
  split at calculated
  · cases calculated
  · split at calculated
    · cases calculated
    · split at calculated
      · assumption
      · cases calculated

theorem orderRows_eq {resolver rowList : Value} {rows : List Value} {graph : Graph}
    (hasRows : resolver.field "rows" = .ok rowList) (listed : rowList.items = .ok rows)
    (complete : ∀ row ∈ rows, HasLineFields row)
    (found : resolver.field "dependencies" = .ok graph.toValue) :
    orderRows resolver =
      .ok (.list ((processingOrder graph (rows.map Line.ofRow)).map Line.row)) := by
  have calculated : (rows.filterM fun row => do
      return (← row.field "data_source") == .str "Calculated Amount") =
        (.ok (rows.filter isCalculatedRow) : Outcome _) := by
    refine filterM_eq_ok fun row row_mem => ?_
    rw [(complete row row_mem).field "data_source" (by simp)]
    rfl
  have coded : (rows.filter isCalculatedRow).mapM (·.field "reference_code") =
      .ok ((rows.filter isCalculatedRow).map
        fun row => (row.field? "reference_code").getD .null) :=
    mapM_eq_ok fun row row_mem =>
      (complete row (mem_filter.mp row_mem).1).field "reference_code" (by simp)
  rw [orderRows, hasRows, ok_bind, listed, ok_bind, calculated, ok_bind, coded, ok_bind]
  by_cases empty : (rows.filter isCalculatedRow).isEmpty
  · -- Without calculated rows there is nothing that the graph could order.
    have noLines : (rows.map Line.ofRow).filter (·.origin == .calculated) = [] := by
      rw [List.isEmpty_iff, filter_eq_nil_iff] at empty
      refine filter_eq_nil_iff.mpr fun line line_mem isCalculated => ?_
      obtain ⟨row, row_mem, rfl⟩ := mem_map.mp line_mem
      exact empty row row_mem (isCalculatedRow_of_origin (eq_of_beq isCalculated))
    rw [if_pos empty]
    change Except.ok (Value.list ((processingOrder [] (rows.map Line.ofRow)).map Line.row)) = _
    rw [processingOrder, noLines, processingOrder, noLines]
    rfl
  · rw [if_neg empty, found, ok_bind, Graph.ofValue_toValue]
    rfl

/-- The rows of a template whose codes are distinct and whose dependencies have no circle are put
into an order that has each of them once, and in which each calculated row comes after all rows
whose codes its formula names. -/
theorem orderRows_after_dependencies (template : Value) {validator resolver rowList : Value}
    {rows : List Value} (hasRows : template.field "rows" = .ok rowList)
    (listed : rowList.items = .ok rows) (complete : ∀ row ∈ rows, HasLineFields row)
    (distinct : DistinctCodes (rows.map Line.ofRow))
    (resolved : resolve template = .ok validator)
    (clear : checkResolvedCircles validator = .ok {})
    (sameRows : resolver.field "rows" = template.field "rows")
    (sameGraph : resolver.field "dependencies" = validator.field "dependencies") :
    ∃ order, orderRows resolver = .ok (.list order) ∧ order.Perm rows ∧
      ∀ (i j : Nat) (_ : i < order.length) (_ : j < order.length),
        (Line.ofRow order[i]).DependsOn (codes (rows.map Line.ofRow)) (Line.ofRow order[j]) →
          j < i := by
  rw [resolve_eq hasRows listed complete] at resolved
  cases resolved
  have graphFound : resolver.field "dependencies" =
      .ok (dependencies (rows.map Line.ofRow)).toValue := sameGraph
  rw [checkResolvedCircles_eq rfl] at clear
  have noCircles : (dependencies (rows.map Line.ofRow)).circles = [] :=
    List.map_eq_nil_iff.mp (congrArg Verdict.errors (Except.ok.inj clear))
  have perm := processingOrder_perm (dependencies (rows.map Line.ofRow)) (rows.map Line.ofRow)
  refine ⟨_, orderRows_eq (sameRows.trans hasRows) listed complete graphFound, ?_, ?_⟩
  · have rowsBack : (rows.map Line.ofRow).map Line.row = rows := by
      rw [List.map_map]
      exact List.map_id _
    exact (perm.map Line.row).trans (.of_eq rowsBack)
  · intro i j iBound jBound
    rw [List.length_map] at iBound jBound
    have readBack {line : Line}
        (line_mem : line ∈ processingOrder (dependencies (rows.map Line.ofRow))
          (rows.map Line.ofRow)) : Line.ofRow line.row = line := by
      obtain ⟨row, -, rfl⟩ := List.mem_map.mp (perm.mem_iff.mp line_mem)
      rfl
    rw [List.getElem_map, List.getElem_map, readBack (List.getElem_mem _),
      readBack (List.getElem_mem _)]
    exact lt_of_dependsOn distinct noCircles iBound jBound

def sampleRow (code source formula : String) : Value :=
  .ofRecord [("reference_code", .str code), ("data_source", .str source),
    ("calculation_formula", .str formula)]

/-- Rows that stand in front of those they depend on: one without a code, then a chain. -/
def chainedRows : List Value :=
  [sampleRow "" "Calculated Amount" "_", sampleRow "_" "Calculated Amount" "__",
    sampleRow "" "Blank Line" "", sampleRow "__" "Calculated Amount" "___",
    sampleRow "___" "Account Data" ""]

theorem dependencies_chainedRows :
    dependencies (chainedRows.map Line.ofRow) = [("_", ["__"]), ("__", ["___"])] := by
  decide +kernel

theorem circles_chainedRows : Graph.circles [("_", ["__"]), ("__", ["___"])] = [] := by
  decide +kernel

theorem orderRows_after_dependencies_chained :
    DistinctCodes (chainedRows.map Line.ofRow) ∧
    ∃ order, orderRows (.object "DependencyResolver" [("rows", .list chainedRows),
        ("dependencies", (dependencies (chainedRows.map Line.ofRow)).toValue)]) =
          .ok (.list order) ∧
      order.Perm chainedRows ∧
      ∀ (i j : Nat) (_ : i < order.length) (_ : j < order.length),
        (Line.ofRow order[i]).DependsOn (codes (chainedRows.map Line.ofRow))
          (Line.ofRow order[j]) → j < i := by
  have distinct : DistinctCodes (chainedRows.map Line.ofRow) := by decide +kernel
  have complete : ∀ row ∈ chainedRows, HasLineFields row := by decide +kernel
  refine ⟨distinct, orderRows_after_dependencies (.object "Template" [("rows", .list chainedRows)])
    rfl rfl complete distinct (resolve_eq rfl rfl complete) ?_ rfl rfl⟩
  rw [checkResolvedCircles_eq rfl, dependencies_chainedRows, checkCircles, circles_chainedRows]
  rfl

end ErpLens.Accounts.Template
