import ErpLens.Proofs.CircleSearch
import ErpLens.Proofs.Settling

/-!
# The order of the lines of a template

The order in which lines are computed has every line once, whatever the dependencies are. With
distinct codes and no circle, no line depends on itself or on a later line.
-/

open List

namespace ErpLens.Accounts.Template

variable {lines : List Line}

/-! ## Codes and references -/

theorem nodup_eraseDups (codes : List String) : codes.eraseDups.Nodup := by
  induction size : codes.length using Nat.strongRecOn generalizing codes with
  | _ count ih =>
    cases codes with
    | nil => simp
    | cons code rest =>
      rw [eraseDups_cons, nodup_cons]
      refine ⟨by simp [mem_eraseDups], ih _ ?_ _ rfl⟩
      rw [← size, length_cons]
      exact Nat.lt_succ_of_le (length_filter_le _ _)

theorem nodup_codes (lines : List Line) : (codes lines).Nodup :=
  nodup_eraseDups _

theorem mem_codes {code : String} :
    code ∈ codes lines ↔ code ≠ "" ∧ ∃ line ∈ lines, line.code = code := by
  simp [codes, mem_eraseDups, and_comm]

theorem references_empty {available : List String} (nonempty : ∀ code ∈ available, code ≠ "") :
    references "" available = [] := by
  refine filter_eq_nil_iff.mpr fun code code_mem => ?_
  simpa [Text.occursAsWord] using fun isNil => absurd isNil (nonempty code code_mem)

/-- No two lines have the same code, except that several can have none. -/
def DistinctCodes (lines : List Line) : Prop :=
  ((lines.map Line.code).filter (· != "")).Nodup

instance (lines : List Line) : Decidable (DistinctCodes lines) :=
  inferInstanceAs (Decidable (List.Nodup _))

theorem DistinctCodes.pairwise (distinct : DistinctCodes lines) :
    lines.Pairwise fun first second => first.code ≠ "" → first.code ≠ second.code := by
  rw [DistinctCodes, List.Nodup, pairwise_filter, pairwise_map] at distinct
  refine distinct.imp fun differ nonempty same => ?_
  exact differ (by simpa using nonempty) (by simpa [← same] using nonempty) same

theorem DistinctCodes.eq_of_code_eq (distinct : DistinctCodes lines) {first second : Line × Nat}
    (first_mem : first ∈ lines.zipIdx) (second_mem : second ∈ lines.zipIdx)
    (named : first.1.code ≠ "") (same : first.1.code = second.1.code) : first = second := by
  have numbered : ((lines.zipIdx.filter (·.1.code != "")).map (·.1.code)).Nodup := by
    rw [DistinctCodes, ← zipIdx_map_fst 0 lines, map_map, filter_map] at distinct
    exact distinct
  refine inj_on_of_nodup_map numbered (mem_filter.mpr ⟨first_mem, ?_⟩)
    (mem_filter.mpr ⟨second_mem, ?_⟩) same
  · simpa using named
  · simpa [← same] using named

theorem DistinctCodes.filter (distinct : DistinctCodes lines) (keep : Line → Bool) :
    DistinctCodes (lines.filter keep) :=
  distinct.sublist ((filter_sublist.map Line.code).filter _)

/-! ## Dependencies -/

/-- A graph with the dependencies of one more line. -/
def Graph.addLine (available : List String) (graph : Graph) (line : Line) : Graph :=
  if line.isNamedCalculation then
    match references line.formula available with
    | [] => graph
    | found => graph.put line.code found
  else graph

theorem dependencies_eq_foldl (lines : List Line) :
    dependencies lines = lines.foldl (Graph.addLine (codes lines)) [] := rfl

namespace Graph

theorem lookup_put (graph : Graph) (changed code : String) (targets : List String) :
    (graph.put changed targets).lookup code =
      if code = changed then some targets else graph.lookup code := by
  induction graph with
  | nil => rw [put, lookup_cons_ite]
  | cons entry rest ih =>
    rcases entry with ⟨key, old⟩
    rw [put]
    by_cases keyEq : key = changed
    · rw [if_pos keyEq, lookup_cons_ite, lookup_cons_ite, keyEq]
      split <;> rfl
    · rw [if_neg keyEq, lookup_cons_ite, lookup_cons_ite, ih]
      by_cases codeEq : code = key
      · rw [if_pos codeEq, if_pos codeEq, if_neg (codeEq ▸ keyEq)]
      · rw [if_neg codeEq, if_neg codeEq]

variable {available : List String}

theorem lookup_addLine_of_ne {graph : Graph} {line : Line} {code : String}
    (differ : line.code ≠ code) :
    (graph.addLine available line).lookup code = graph.lookup code := by
  unfold addLine
  split
  · split
    · rfl
    · rw [lookup_put, if_neg differ.symm]
  · rfl

theorem lookup_foldl_addLine_of_ne {lines : List Line} {code : String} (graph : Graph)
    (differ : ∀ line ∈ lines, line.code ≠ code) :
    (lines.foldl (addLine available) graph).lookup code = graph.lookup code := by
  induction lines generalizing graph with
  | nil => rfl
  | cons line rest ih =>
    rw [foldl_cons, ih _ fun other other_mem => differ other (by simp [other_mem])]
    exact lookup_addLine_of_ne (differ line (by simp))

theorem next_addLine (nonempty : ∀ code ∈ available, code ≠ "") {graph : Graph} {line : Line}
    (absent : graph.lookup line.code = none) (named : line.code ≠ "")
    (calculated : line.origin = .calculated) :
    (graph.addLine available line).next line.code = references line.formula available := by
  by_cases noFormula : line.formula = ""
  · have skipped : line.isNamedCalculation = false := by
      simp [Line.isNamedCalculation, noFormula]
    simp [addLine, skipped, next, absent, noFormula, references_empty nonempty]
  · have taken : line.isNamedCalculation = true := by
      simp [Line.isNamedCalculation, noFormula, named, calculated]
    rw [addLine, if_pos taken]
    split
    · rename_i noReferences
      simp [next, absent, noReferences]
    · simp [next, lookup_put]

end Graph

theorem next_dependencies (distinct : DistinctCodes lines) {line : Line} (line_mem : line ∈ lines)
    (named : line.code ≠ "") (calculated : line.origin = .calculated) :
    (dependencies lines).next line.code = references line.formula (codes lines) := by
  have nonempty : ∀ code ∈ codes lines, code ≠ "" := fun code code_mem => (mem_codes.mp code_mem).1
  rw [dependencies_eq_foldl]
  generalize codes lines = available at nonempty
  obtain ⟨before, after, rfl⟩ := append_of_mem line_mem
  -- The entry of the code is made by this line alone: no line before or after has the code.
  obtain ⟨-, own, other⟩ := pairwise_append.mp distinct.pairwise
  have differAfter : ∀ other ∈ after, other.code ≠ line.code := fun other other_mem =>
    ((pairwise_cons.mp own).1 other other_mem named).symm
  have differBefore : ∀ earlier ∈ before, earlier.code ≠ line.code :=
    fun earlier earlier_mem same => other earlier earlier_mem line (by simp) (same ▸ named) same
  have absent : (before.foldl (Graph.addLine available) []).lookup line.code = none :=
    Graph.lookup_foldl_addLine_of_ne [] differBefore
  rw [foldl_append, foldl_cons, Graph.next, Graph.lookup_foldl_addLine_of_ne _ differAfter]
  exact Graph.next_addLine nonempty absent named calculated

/-! ## Every line once -/

theorem lastWithCode_spec {numbered : List (Line × Nat)} {code : String} {entry : Line × Nat}
    (found : lastWithCode numbered code = some entry) :
    entry ∈ numbered ∧ entry.1.code = code := by
  simpa using mem_filter.mp (mem_of_getLast? found)

variable (graph : Graph)

def settledLines (lines : List Line) : List (Line × Nat) :=
  (graph.settle (codes lines)).filterMap (lastWithCode lines.zipIdx)

def leftLines (lines : List Line) : List (Line × Nat) :=
  lines.zipIdx.filter fun entry => !((settledLines graph lines).map Prod.snd).contains entry.2

theorem sortCalculated_eq (lines : List Line) :
    sortCalculated graph lines =
      (settledLines graph lines).map Prod.fst ++ (leftLines graph lines).map Prod.fst :=
  map_append

theorem mem_settledLines {graph : Graph} {entry : Line × Nat}
    (entry_mem : entry ∈ settledLines graph lines) : entry ∈ lines.zipIdx := by
  obtain ⟨code, -, found⟩ := mem_filterMap.mp entry_mem
  exact (lastWithCode_spec found).1

theorem nodup_settledLines (lines : List Line) :
    (settledLines graph lines).Nodup := by
  refine Nodup.filterMap ?_ (graph.settles_settle (nodup_codes lines)).nodup
  intro first second entry firstFound secondFound
  rw [← (lastWithCode_spec firstFound).2, ← (lastWithCode_spec secondFound).2]

theorem eq_of_mem_zipIdx {first second : Line × Nat} (first_mem : first ∈ lines.zipIdx)
    (second_mem : second ∈ lines.zipIdx) (sameNumber : first.2 = second.2) : first = second := by
  rw [mem_zipIdx_iff_getElem?] at first_mem second_mem
  rw [sameNumber, second_mem] at first_mem
  exact Prod.ext (Option.some.inj first_mem).symm sameNumber

theorem sortCalculated_perm (lines : List Line) :
    (sortCalculated graph lines).Perm lines := by
  have nodup : lines.zipIdx.Nodup := by
    refine Nodup.of_map Prod.snd ?_
    rw [zipIdx_map_snd]
    exact nodup_range'
  have all : (settledLines graph lines ++ leftLines graph lines).Perm lines.zipIdx := by
    refine (perm_ext_iff_of_nodup ?_ nodup).mpr fun entry => ?_
    · refine Nodup.append (nodup_settledLines graph lines) (nodup.filter _) ?_
      intro entry settled left
      have notSettled := (mem_filter.mp left).2
      simp only [contains_eq_mem, mem_map_of_mem settled, decide_true,
        Bool.not_true, Bool.false_eq_true] at notSettled
    · simp only [mem_append, leftLines, mem_filter, contains_eq_mem,
        Bool.not_eq_true', decide_eq_false_iff_not]
      constructor
      · rintro (settled | ⟨numbered, -⟩)
        · exact mem_settledLines settled
        · exact numbered
      · intro numbered
        by_cases settled : entry.2 ∈ (settledLines graph lines).map Prod.snd
        · obtain ⟨other, other_mem, sameNumber⟩ := mem_map.mp settled
          rw [eq_of_mem_zipIdx numbered (mem_settledLines other_mem) sameNumber.symm]
          exact .inl other_mem
        · exact .inr ⟨numbered, settled⟩
  simpa [sortCalculated_eq] using all.map Prod.fst

/-- No line is lost and none comes twice. -/
theorem processingOrder_perm (lines : List Line) :
    (processingOrder graph lines).Perm lines := by
  refine (((Perm.refl _).append (sortCalculated_perm graph _)).append_right _).trans ?_
  -- What is left is to split the lines by their origins.
  induction lines with
  | nil => simp
  | cons line rest ih =>
    simp only [append_assoc] at ih ⊢
    cases origin : line.origin <;>
      simp only [filter_cons, origin, beq_self_eq_true, if_true, cons_append,
        reduceCtorEq, beq_iff_eq, if_false]
    case customApi => exact ih.cons line
    case accountData => exact perm_middle.trans (ih.cons line)
    case calculated =>
      exact (perm_middle.append_left _).trans (perm_middle.trans (ih.cons line))
    case other =>
      refine ((perm_middle.append_left _).append_left _).trans ?_
      exact (perm_middle.append_left _).trans (perm_middle.trans (ih.cons line))

/-! ## Dependencies first -/

section

variable {graph : Graph} {lines : List Line}
  (grounded : WellFounded fun target code => target ∈ graph.next code)

include grounded

theorem mem_settle {code : String} (code_mem : code ∈ codes lines) :
    code ∈ graph.settle (codes lines) :=
  (graph.settles_settle (nodup_codes lines)).complete grounded code_mem

theorem code_eq_empty_of_mem_leftLines (distinct : DistinctCodes lines) {line : Line}
    (line_mem : line ∈ (leftLines graph lines).map Prod.fst) : line.code = "" := by
  obtain ⟨entry, entry_mem, rfl⟩ := mem_map.mp line_mem
  by_contra named
  obtain ⟨numbered, notSettled⟩ := mem_filter.mp entry_mem
  have isLine : entry.1 ∈ lines := fst_mem_of_mem_zipIdx numbered
  have isSettled := mem_settle grounded (mem_codes.mpr ⟨named, entry.1, isLine, rfl⟩)
  have isLast : lastWithCode lines.zipIdx entry.1.code = some entry := by
    have candidate : entry ∈ lines.zipIdx.filter fun other => other.1.code == entry.1.code :=
      mem_filter.mpr ⟨numbered, by simp⟩
    obtain ⟨last, found⟩ : ∃ last, lastWithCode lines.zipIdx entry.1.code = some last :=
      ⟨_, getLast?_eq_some_getLast (ne_nil_of_mem candidate)⟩
    obtain ⟨last_mem, sameCode⟩ := lastWithCode_spec found
    rw [found, distinct.eq_of_code_eq numbered last_mem named sameCode.symm]
  have settled : entry ∈ settledLines graph lines := mem_filterMap.mpr ⟨_, isSettled, isLast⟩
  simp only [contains_eq_mem, mem_map_of_mem settled, decide_true, Bool.not_true,
    Bool.false_eq_true] at notSettled

/-- Of two calculated lines in their order, the earlier one does not depend on the later one; and
no line depends on itself. -/
theorem sortCalculated_ordered (distinct : DistinctCodes lines) :
    (sortCalculated graph lines).Pairwise (fun earlier later =>
      later.code ≠ "" → earlier.code ≠ "" ∧ later.code ∉ graph.next earlier.code) ∧
    ∀ line ∈ lines, line.code ≠ "" → line.code ∉ graph.next line.code := by
  have settles := graph.settles_settle (nodup_codes lines)
  have within_of_next {code : String} {line : Line} (line_mem : line ∈ lines)
      (named : line.code ≠ "") (depends : line.code ∈ graph.next code) :
      line.code ∈ graph.within (codes lines) code :=
    mem_filter.mpr ⟨depends, decide_eq_true (mem_codes.mpr ⟨named, line, line_mem, rfl⟩)⟩
  constructor
  · rw [sortCalculated_eq, pairwise_append]
    refine ⟨?_, ?_, ?_⟩
    · rw [pairwise_map, settledLines, pairwise_filterMap]
      refine settles.pairwise.imp_of_mem ?_
      intro firstCode secondCode first_mem _ apart first isFirst second isSecond named
      obtain ⟨-, firstEq⟩ := lastWithCode_spec isFirst
      obtain ⟨numbered, secondEq⟩ := lastWithCode_spec isSecond
      refine ⟨firstEq ▸ (mem_codes.mp (settles.subset first_mem)).1, fun depends => apart ?_⟩
      rw [← secondEq]
      exact within_of_next (fst_mem_of_mem_zipIdx numbered) named (firstEq ▸ depends)
    · refine pairwise_of_forall_mem_list fun _ _ later later_mem named => ?_
      exact absurd (code_eq_empty_of_mem_leftLines grounded distinct later_mem) named
    · intro _ _ later later_mem named
      exact absurd (code_eq_empty_of_mem_leftLines grounded distinct later_mem) named
  · intro line line_mem named depends
    exact settles.not_mem_within
      (mem_settle grounded (mem_codes.mpr ⟨named, line, line_mem, rfl⟩))
      (within_of_next line_mem named depends)

end

/-- The amounts of a line are computed from those of another one: the line is calculated, and its
formula names the other, whose amounts are computed too. -/
def Line.DependsOn (available : List String) (line other : Line) : Prop :=
  line.origin = .calculated ∧ other.origin ≠ .other ∧
    other.code ∈ references line.formula available

theorem Line.DependsOn.code_mem {available : List String} {line other : Line}
    (depends : line.DependsOn available other) : other.code ∈ available :=
  (mem_filter.mp depends.2.2).1

/-- If the codes are distinct and there is no circle, no line depends on itself or a later line. -/
theorem processingOrder_ordered (distinct : DistinctCodes lines)
    (clear : (dependencies lines).circles = []) :
    (processingOrder (dependencies lines) lines).Pairwise
      (fun earlier later => ¬ earlier.DependsOn (codes lines) later) ∧
    ∀ line ∈ lines, ¬ line.DependsOn (codes lines) line := by
  have grounded := Graph.wellFounded_next_of_circles_eq_nil clear
  obtain ⟨sorted, irreflexive⟩ :=
    sortCalculated_ordered grounded (distinct.filter (·.origin == .calculated))
  have isCalculated {line : Line} (line_mem : line ∈ sortCalculated (dependencies lines)
      (lines.filter (·.origin == .calculated))) : line ∈ lines ∧ line.origin = .calculated := by
    simpa using (sortCalculated_perm _ _).mem_iff.mp line_mem
  constructor
  · rw [processingOrder, pairwise_append, pairwise_append]
    refine ⟨⟨?_, ?_, ?_⟩, ?_, ?_⟩
    · refine pairwise_of_forall_mem_list fun earlier earlier_mem _ _ depends => ?_
      simp [depends.1] at earlier_mem
    · refine sorted.imp_of_mem fun earlier_mem _ apart depends => ?_
      obtain ⟨earlierNamed, notNext⟩ := apart (mem_codes.mp depends.code_mem).1
      obtain ⟨isLine, calculated⟩ := isCalculated earlier_mem
      exact notNext (next_dependencies distinct isLine earlierNamed calculated ▸ depends.2.2)
    · intro earlier earlier_mem _ _ depends
      simp [depends.1] at earlier_mem
    · refine pairwise_of_forall_mem_list fun _ _ later later_mem depends => ?_
      exact depends.2.1 (by simpa using (mem_filter.mp later_mem).2)
    · intro _ _ later later_mem depends
      exact depends.2.1 (by simpa using (mem_filter.mp later_mem).2)
  · intro line line_mem depends
    have named := (mem_codes.mp depends.code_mem).1
    refine irreflexive line (mem_filter.mpr ⟨line_mem, by simp [depends.1]⟩) named ?_
    rw [next_dependencies distinct line_mem named depends.1]
    exact depends.2.2

theorem lt_of_dependsOn (distinct : DistinctCodes lines) (clear : (dependencies lines).circles = [])
    {i j : Nat} (iBound : i < (processingOrder (dependencies lines) lines).length)
    (jBound : j < (processingOrder (dependencies lines) lines).length)
    (depends : (processingOrder (dependencies lines) lines)[i].DependsOn (codes lines)
      (processingOrder (dependencies lines) lines)[j]) :
    j < i := by
  obtain ⟨ordered, irreflexive⟩ := processingOrder_ordered distinct clear
  rcases Nat.lt_trichotomy i j with earlier | rfl | later
  · exact absurd depends (pairwise_iff_getElem.mp ordered i j iBound jBound earlier)
  · have isLine := (processingOrder_perm (dependencies lines) lines).mem_iff.mp
      (getElem_mem iBound)
    exact absurd depends (irreflexive _ isLine)
  · exact later

end ErpLens.Accounts.Template
